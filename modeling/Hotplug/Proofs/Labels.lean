import Hotplug.Labels
import Hotplug.Proofs.Success
import Hotplug.Proofs.Table
import Hotplug.Proofs.Trim
import Mathlib.Data.List.Induction

/-!
# Labels from flag to selector

Labels are read segment by segment. A blank segment says nothing, and any other has to say what
value a label has; of several that speak of one label the last counts. What is read has keys and
values that the text of a selector can hold: there they stand between commas and around an equals
sign, so that this text is read as the same labels again.

## Main definitions

* `Says segment key value` — a segment says that a label has a value.
* `LastSays segments key value` — the last segment that speaks of a label says so.
* `ofSegments segments` — the labels of some segments.
* `Plain key value` — a key and a value that a selector can hold.

## Main results

* `ofSegments_concat_eq_ok_iff` — one segment more is one label more.
* `parse_selector` — plain labels are read back from their selector.
* `labels_round_trip` — **which texts hold labels, which labels they hold, and that these survive
  the way into a selector and back.**
-/

namespace Hotplug.Labels

open Text (Blanks Bare Core trimChars)

variable {segment key value : String} {segments : List String} {labels : Table String}

/-! ### Segments -/

/-- `Says segment key value` says that a segment has an equals sign, and around the first one the
key and the value, with blanks around either. -/
def Says (segment key value : String) : Prop :=
  ∃ front back, segment.toList = front ++ '=' :: back ∧ '=' ∉ front ∧
    Core front key.toList ∧ Core back value.toList

/-- `LastSays segments key value` says that a segment gives the label `key` the value `value`, and
that no later one speaks of that label. -/
def LastSays (segments : List String) (key value : String) : Prop :=
  ∃ before segment after, segments = before ++ segment :: after ∧ Says segment key value ∧
    ∀ later ∈ after, ∀ other, ¬ Says later key other

theorem equals_not_mem_of_blanks {blanks : List Char} (h : Blanks blanks) : '=' ∉ blanks := by
  intro hmem
  exact absurd (h '=' hmem) (by decide)

/-- A text has one first equals sign. -/
theorem cut_unique {cs front back front' back' : List Char} (h : cs = front ++ '=' :: back)
    (hfront : '=' ∉ front) (h' : cs = front' ++ '=' :: back') (hfront' : '=' ∉ front') :
    front = front' ∧ back = back' := by
  have hcut := Text.cutChars?_append hfront back
  have hcut' := Text.cutChars?_append hfront' back'
  rw [← h] at hcut
  rw [← h', hcut] at hcut'
  simpa using hcut'

/-- A segment gives one value to one label. -/
theorem Says.unique {key' value' : String} (h : Says segment key value)
    (h' : Says segment key' value') : key = key' ∧ value = value' := by
  obtain ⟨front, back, hcut, hfront, hkey, hvalue⟩ := h
  obtain ⟨front', back', hcut', hfront', hkey', hvalue'⟩ := h'
  obtain ⟨rfl, rfl⟩ := cut_unique hcut hfront hcut' hfront'
  constructor
  · apply String.toList_inj.1
    rw [← hkey.trimChars_eq, ← hkey'.trimChars_eq]
  · apply String.toList_inj.1
    rw [← hvalue.trimChars_eq, ← hvalue'.trimChars_eq]

/-- A segment that says something is not blank. -/
theorem Says.not_blanks (h : Says segment key value) : ¬ Blanks segment.toList := by
  obtain ⟨front, back, hcut, -⟩ := h
  intro hblanks
  rw [hcut] at hblanks
  exact absurd (hblanks '=' (by simp)) (by decide)

/-- Some key is found in a segment exactly if it has an equals sign with something before it. -/
theorem exists_says_iff : (∃ key value, Says segment key value ∧ key ≠ "") ↔
    ∃ front back, segment.toList = front ++ '=' :: back ∧ '=' ∉ front ∧ ¬ Blanks front := by
  constructor
  · rintro ⟨key, value, ⟨front, back, hcut, hfront, hkey, -⟩, hne⟩
    refine ⟨front, back, hcut, hfront, fun hblanks => hne ?_⟩
    apply String.toList_inj.1
    rw [← hkey.trimChars_eq, Text.trimChars_eq_nil_iff.2 hblanks]
    rfl
  · rintro ⟨front, back, hcut, hfront, hblanks⟩
    refine ⟨.ofList (trimChars front), .ofList (trimChars back), ⟨front, back, hcut, hfront, ?_, ?_⟩,
      fun hempty => hblanks ?_⟩
    · rw [String.toList_ofList]
      exact Text.core_trimChars front
    · rw [String.toList_ofList]
      exact Text.core_trimChars back
    · apply Text.trimChars_eq_nil_iff.1
      rw [← String.toList_ofList (l := trimChars front), hempty]
      rfl

/-- Blanks around a segment change nothing in what it says. -/
theorem says_trim_iff : Says (Text.trim segment) key value ↔ Says segment key value := by
  obtain ⟨before, after, hsegment, hbefore, hafter⟩ := (Text.core_trimChars segment.toList).around
  have hchars : (Text.trim segment).toList = trimChars segment.toList := String.toList_ofList
  -- A cut of the core is one of the whole, with the blanks put around it.
  have hwiden : ∀ {front back : List Char}, trimChars segment.toList = front ++ '=' :: back →
      '=' ∉ front → segment.toList = (before ++ front) ++ '=' :: (back ++ after) ∧
        '=' ∉ before ++ front := by
    intro front back hcore hfront
    constructor
    · rw [hsegment, hcore]
      simp only [List.append_assoc, List.cons_append]
    · simp [equals_not_mem_of_blanks hbefore, hfront]
  unfold Says
  rw [hchars]
  constructor
  · rintro ⟨front, back, hcut, hfront, hkey, hvalue⟩
    obtain ⟨hcut', hfront'⟩ := hwiden hcut hfront
    exact ⟨_, _, hcut', hfront', (Text.core_blanks_append_iff hbefore).2 hkey,
      (Text.core_append_blanks_iff hafter).2 hvalue⟩
  · rintro ⟨front', back', hcut', hfront', hkey, hvalue⟩
    -- The equals sign is in the core, since it is no blank.
    have hmem : '=' ∈ trimChars segment.toList := by
      have hall : '=' ∈ before ++ (trimChars segment.toList ++ after) := by
        rw [← hsegment, hcut']
        simp
      simpa [equals_not_mem_of_blanks hbefore, equals_not_mem_of_blanks hafter] using hall
    obtain ⟨front, back, hcut, hfront⟩ := List.eq_append_cons_of_mem hmem
    obtain ⟨hwide, hfrontWide⟩ := hwiden hcut hfront
    obtain ⟨rfl, rfl⟩ := cut_unique hcut' hfront' hwide hfrontWide
    exact ⟨front, back, hcut, hfront, (Text.core_blanks_append_iff hbefore).1 hkey,
      (Text.core_append_blanks_iff hafter).1 hvalue⟩

/-- A pair is read as what it says, unless its key is empty. -/
theorem parsePair_eq_ok_iff {pair : String} :
    parsePair pair = .ok (key, value) ↔ Says pair key value ∧ key ≠ "" := by
  unfold parsePair
  cases hcut : Text.cut? '=' pair with
  | none =>
    constructor
    · intro h
      cases h
    · rintro ⟨⟨front, back, hpair, hfront, -⟩, -⟩
      rw [Text.cut?, hpair, Text.cutChars?_append hfront] at hcut
      cases hcut
  | some parts =>
    obtain ⟨front, back⟩ := parts
    obtain ⟨hpair, hfront⟩ := Text.cut?_eq_some_iff.1 hcut
    have hsaid : Says pair (Text.trim front) (Text.trim back) := by
      refine ⟨front.toList, back.toList, hpair, hfront, ?_, ?_⟩
      · rw [Text.trim, String.toList_ofList]
        exact Text.core_trimChars _
      · rw [Text.trim, String.toList_ofList]
        exact Text.core_trimChars _
    simp only
    by_cases hkey : Text.trim front = ""
    · rw [if_pos (by simp [hkey])]
      constructor
      · intro h
        cases h
      · rintro ⟨h, hne⟩
        exact absurd ((h.unique hsaid).1.trans hkey) hne
    · rw [if_neg (by simpa using hkey)]
      constructor
      · intro h
        obtain ⟨rfl, rfl⟩ := Prod.mk.inj (Except.ok.inj h)
        exact ⟨hsaid, hkey⟩
      · rintro ⟨h, -⟩
        obtain ⟨rfl, rfl⟩ := h.unique hsaid
        rfl

/-! ### Reading segment by segment -/

/-- The labels of some segments. -/
def ofSegments (segments : List String) : Except Error (Table String) :=
  (((segments.map Text.trim).filter fun pair => !pair.isEmpty).mapM parsePair).map Table.ofList

/-- The labels of a text are those of what stands between its commas. -/
theorem parse_eq (text : String) : parse text = ofSegments (Text.split ',' text) := rfl

theorem trim_isEmpty : (Text.trim segment).isEmpty = true ↔ Blanks segment.toList := by
  rw [← Text.trimChars_eq_nil_iff, String.isEmpty_iff, ← String.toList_inj, Text.trim,
    String.toList_ofList]
  rfl

/-- A blank segment at the end changes nothing. -/
theorem ofSegments_concat_blanks (h : Blanks segment.toList) :
    ofSegments (segments ++ [segment]) = ofSegments segments := by
  have hlast : [Text.trim segment].filter (fun pair => !pair.isEmpty) = [] := by
    simp [trim_isEmpty.2 h]
  unfold ofSegments
  rw [List.map_append, List.filter_append, List.map_singleton, hlast, List.append_nil]

/-- Any other segment at the end is read after the others, and has the last word. -/
theorem ofSegments_concat (h : ¬ Blanks segment.toList) :
    ofSegments (segments ++ [segment]) =
      (ofSegments segments).bind fun labels =>
        (parsePair (Text.trim segment)).map fun e => labels.insert e.1 e.2 := by
  have hkept : (Text.trim segment).isEmpty = false := by
    rw [← Bool.not_eq_true, trim_isEmpty]
    exact h
  have hlast : [Text.trim segment].filter (fun pair => !pair.isEmpty) = [Text.trim segment] := by
    simp only [List.filter_cons, hkept, Bool.not_false, if_true, List.filter_nil]
  unfold ofSegments
  rw [List.map_append, List.filter_append, List.map_singleton, hlast, List.mapM_append]
  cases ((segments.map Text.trim).filter fun pair => !pair.isEmpty).mapM parsePair with
  | error e => rfl
  | ok entries =>
    rw [List.mapM_cons, List.mapM_nil]
    cases parsePair (Text.trim segment) with
    | error e => rfl
    | ok e =>
      obtain ⟨key, value⟩ := e
      exact congrArg Except.ok (Table.ofList_concat entries key value)

/-- Any other segment at the end says something of a label, which is put to the others. -/
theorem ofSegments_concat_eq_ok_iff (h : ¬ Blanks segment.toList) :
    ofSegments (segments ++ [segment]) = .ok labels ↔
      ∃ before key value, ofSegments segments = .ok before ∧ Says segment key value ∧ key ≠ "" ∧
        before.insert key value = labels := by
  rw [ofSegments_concat h]
  constructor
  · intro hlabels
    obtain ⟨before, hbefore, hrest⟩ := bind_eq_ok_iff.1 hlabels
    obtain ⟨e, hpair, hinsert⟩ := map_eq_ok_iff.1 hrest
    obtain ⟨hsaid, hkey⟩ := parsePair_eq_ok_iff.1 hpair
    exact ⟨before, e.1, e.2, hbefore, says_trim_iff.1 hsaid, hkey, hinsert⟩
  · rintro ⟨before, key, value, hbefore, hsaid, hkey, rfl⟩
    rw [hbefore, parsePair_eq_ok_iff.2 ⟨says_trim_iff.2 hsaid, hkey⟩]
    rfl

/-- The last word on a label after one segment more. -/
theorem lastSays_concat_iff : LastSays (segments ++ [segment]) key value ↔
    Says segment key value ∨ (∀ other, ¬ Says segment key other) ∧ LastSays segments key value := by
  constructor
  · rintro ⟨before, speaker, after, hsplit, hsaid, hlater⟩
    rcases List.eq_nil_or_concat after with rfl | ⟨after, last, rfl⟩
    · obtain ⟨-, hlast⟩ := List.append_inj' hsplit rfl
      obtain rfl := List.singleton_inj.1 hlast
      exact .inl hsaid
    · rw [List.concat_eq_append, ← List.cons_append, ← List.append_assoc] at hsplit
      obtain ⟨rfl, hlast⟩ := List.append_inj' hsplit rfl
      obtain rfl := List.singleton_inj.1 hlast
      refine .inr ⟨hlater _ (by simp), before, speaker, after, rfl, hsaid, fun later hmem => ?_⟩
      exact hlater later (by simp [hmem])
  · rintro (hsaid | ⟨hsilent, before, speaker, after, rfl, hsaid, hlater⟩)
    · exact ⟨segments, segment, [], rfl, hsaid, by simp⟩
    · refine ⟨before, speaker, after ++ [segment], by simp, hsaid, fun later hmem => ?_⟩
      rcases List.mem_append.1 hmem with hmem | hmem
      · exact hlater later hmem
      · rw [List.mem_singleton.1 hmem]
        exact hsilent

/-- **Segments are labels exactly if every one that is not blank says something of a label.** -/
theorem exists_ofSegments_iff : (∃ labels, ofSegments segments = .ok labels) ↔
    ∀ segment ∈ segments, ¬ Blanks segment.toList → ∃ key value, Says segment key value ∧ key ≠ "" := by
  induction segments using List.reverseRecOn with
  | nil => exact ⟨fun _ => by simp, fun _ => ⟨_, rfl⟩⟩
  | append_singleton segments segment ih =>
    rw [List.forall_mem_append, List.forall_mem_singleton, ← ih]
    by_cases hblanks : Blanks segment.toList
    · rw [ofSegments_concat_blanks hblanks]
      exact ⟨fun h => ⟨h, fun hnot => absurd hblanks hnot⟩, And.left⟩
    · simp only [ofSegments_concat_eq_ok_iff hblanks]
      constructor
      · rintro ⟨labels, before, key, value, hbefore, hsaid, hkey, -⟩
        exact ⟨⟨before, hbefore⟩, fun _ => ⟨key, value, hsaid, hkey⟩⟩
      · rintro ⟨⟨before, hbefore⟩, hsegment⟩
        obtain ⟨key, value, hsaid, hkey⟩ := hsegment hblanks
        exact ⟨_, before, key, value, hbefore, hsaid, hkey, rfl⟩

/-- **The labels of some segments have the values that the segments give them last.** -/
theorem get?_ofSegments (h : ofSegments segments = .ok labels) :
    labels.get? key = some value ↔ LastSays segments key value := by
  induction segments using List.reverseRecOn generalizing labels with
  | nil =>
    obtain rfl := Except.ok.inj h
    simp [LastSays, Table.ofList]
  | append_singleton segments segment ih =>
    rw [lastSays_concat_iff]
    by_cases hblanks : Blanks segment.toList
    · rw [ofSegments_concat_blanks hblanks] at h
      have hsilent : ∀ other, ¬ Says segment key other := fun other hsaid =>
        hsaid.not_blanks hblanks
      rw [ih h]
      exact ⟨fun hlast => .inr ⟨hsilent, hlast⟩, fun hcases =>
        hcases.elim (fun hsaid => absurd hsaid (hsilent value)) And.right⟩
    · obtain ⟨before, key', value', hbefore, hsaid, -, rfl⟩ :=
        (ofSegments_concat_eq_ok_iff hblanks).1 h
      rw [Table.get?_insert, ← ih hbefore]
      by_cases hkey : key = key'
      · subst hkey
        rw [if_pos rfl, Option.some.injEq]
        constructor
        · rintro rfl
          exact .inl hsaid
        · rintro (hother | ⟨hsilent, -⟩)
          · exact (hsaid.unique hother).2
          · exact absurd hsaid (hsilent value')
      · have hsilent : ∀ other, ¬ Says segment key other := fun other hother =>
          hkey (hother.unique hsaid).1
        rw [if_neg hkey]
        exact ⟨fun hget => .inr ⟨hsilent, hget⟩, fun hcases =>
          hcases.elim (fun hother => absurd hother (hsilent value)) And.right⟩

/-! ### The way into a selector and back -/

/-- A key and a value that a selector can hold: they are trimmed, there is a key, and there is no
comma in either and no equals sign in the key. -/
structure Plain (key value : String) : Prop where
  key_ne : key ≠ ""
  key_bare : Bare key.toList
  key_equals : '=' ∉ key.toList
  key_comma : ',' ∉ key.toList
  value_bare : Bare value.toList
  value_comma : ',' ∉ value.toList

/-- What is read of a segment without commas is plain. -/
theorem Says.plain (h : Says segment key value) (hkey : key ≠ "") (hcomma : ',' ∉ segment.toList) :
    Plain key value := by
  obtain ⟨front, back, hcut, hfront, hfrontCore, hbackCore⟩ := h
  obtain ⟨before, after, hfrontEq, -, -⟩ := hfrontCore.around
  obtain ⟨before', after', hbackEq, -, -⟩ := hbackCore.around
  rw [hfrontEq] at hfront
  rw [hcut, hfrontEq, hbackEq] at hcomma
  simp only [List.mem_append, List.mem_cons, not_or] at hfront hcomma
  exact ⟨hkey, hfrontCore.bare, hfront.2.1, hcomma.1.2.1, hbackCore.bare, hcomma.2.2.2.1⟩

/-- All labels that are read of a text are plain. -/
theorem plain_of_parse {text : String} (h : parse text = .ok labels) {e : String × String}
    (he : e ∈ labels.entries) : Plain e.1 e.2 := by
  have hget : labels.get? e.1 = some e.2 := Table.get?_eq_some_iff.2 he
  obtain ⟨before, segment, after, hsplit, hsaid, -⟩ := (get?_ofSegments h).1 hget
  have hmem : segment ∈ Text.split ',' text := by
    rw [hsplit]
    simp
  obtain ⟨key, value, hsaid', hkey⟩ := exists_ofSegments_iff.1 ⟨labels, h⟩ segment hmem
    hsaid.not_blanks
  obtain ⟨rfl, rfl⟩ := hsaid'.unique hsaid
  exact hsaid'.plain hkey (Text.not_mem_of_mem_split hmem)

/-- A label as a selector writes it. -/
def written (e : String × String) : String :=
  e.1 ++ "=" ++ e.2

/-- A plain label that is written says what it is. -/
theorem Plain.says (h : Plain key value) : Says (written (key, value)) key value := by
  have hself : ∀ {cs : List Char}, Bare cs → Core cs cs := fun hcs =>
    Text.trimChars_eq_iff.1 hcs.trimChars_eq
  refine ⟨key.toList, value.toList, ?_, h.key_equals, hself h.key_bare, hself h.value_bare⟩
  simp [written, String.toList_append]

/-- Plain labels that are written one by one are read as they are. -/
theorem ofSegments_written {entries : List (String × String)}
    (h : ∀ e ∈ entries, Plain e.1 e.2) :
    ofSegments (entries.map written) = .ok (Table.ofList entries) := by
  induction entries using List.reverseRecOn with
  | nil => rfl
  | append_singleton entries e ih =>
    obtain ⟨key, value⟩ := e
    have hplain : Plain key value := h (key, value) (by simp)
    have hpair : parsePair (Text.trim (written (key, value))) = .ok (key, value) :=
      parsePair_eq_ok_iff.2 ⟨says_trim_iff.2 hplain.says, hplain.key_ne⟩
    rw [List.map_append, List.map_singleton, ofSegments_concat hplain.says.not_blanks,
      ih fun e he => h e (by simp [he]), hpair, Table.ofList_concat]
    rfl

/-- **Plain labels are read back from their selector.** -/
theorem parse_selector (h : ∀ e ∈ labels.entries, Plain e.1 e.2) :
    parse (selector labels) = .ok labels := by
  have hselector : selector labels = (String.singleton ',').intercalate (labels.entries.map written) :=
    rfl
  have hread : ofSegments (labels.entries.map written) = .ok labels := by
    rw [ofSegments_written h, Table.ofList_entries]
  rw [parse_eq, hselector]
  cases hentries : labels.entries with
  | nil =>
    -- Without labels the selector is empty, which is one blank segment.
    have hempty : labels = .empty := Table.ext_entries hentries
    rw [hempty]
    rfl
  | cons e rest =>
    rw [← hentries, Text.split_intercalate, hread]
    · simp [hentries]
    · intro part hpart
      obtain ⟨e', he', rfl⟩ := List.mem_map.1 hpart
      have hplain := h e' he'
      simp [written, String.toList_append, hplain.key_comma, hplain.value_comma]

/-- **Labels survive the way from flag to selector.** A text holds labels exactly if every segment
between its commas that is not blank has an equals sign with something before the first one. Then
the value of a label is what the last segment that has the label before its first equals sign has
after it, both without the blanks around them; and the text of the selector for these labels is read
as the same labels again. -/
theorem labels_round_trip (text : String) :
    ((∃ labels, parse text = .ok labels) ↔
      ∀ segment ∈ Text.split ',' text, ¬ Blanks segment.toList →
        ∃ front back, segment.toList = front ++ '=' :: back ∧ '=' ∉ front ∧ ¬ Blanks front) ∧
      ∀ labels, parse text = .ok labels →
        (∀ key value, labels.get? key = some value ↔
          LastSays (Text.split ',' text) key value) ∧
        parse (selector labels) = .ok labels := by
  constructor
  · simp only [← exists_says_iff]
    exact exists_ofSegments_iff
  · intro labels h
    refine ⟨fun key value => get?_ofSegments h, ?_⟩
    apply parse_selector
    intro e he
    exact plain_of_parse h he

/-- Of two values for one label the last counts; a value may be empty, or have an equals sign. -/
def repeatedLabels : Table String :=
  .ofList [("a", "z"), ("b", ""), ("c", "x=y")]

/-- Blanks and blank segments are passed over, and the first value of `a` is forgotten. -/
theorem labels_round_trip_repeated :
    parse " a = w , ,b=,c= x=y,a= z" = .ok repeatedLabels ∧
      LastSays (Text.split ',' " a = w , ,b=,c= x=y,a= z") "a" "z" ∧
      ¬ LastSays (Text.split ',' " a = w , ,b=,c= x=y,a= z") "a" "w" ∧
      parse (selector repeatedLabels) = .ok repeatedLabels := by
  have hparse : parse " a = w , ,b=,c= x=y,a= z" = .ok repeatedLabels := by decide +kernel
  obtain ⟨hget, hback⟩ := (labels_round_trip " a = w , ,b=,c= x=y,a= z").2 repeatedLabels hparse
  refine ⟨hparse, (hget "a" "z").1 (by decide), fun hlast => ?_, hback⟩
  exact absurd ((hget "a" "w").2 hlast) (by decide)

end Hotplug.Labels
