import ChatLedger.Text.Like
import Mathlib.Data.List.Infix

/-!
# Searches find keywords literally

1. `Fits` says what a pattern stands for, item by item, and `matchesItems_iff` that this is what is
   matched.
2. `readPattern_containing`: the pattern of a keyword is read as the letters of the keyword, between
   two runs of any characters, whatever wildcards and escape characters the keyword holds.
3. `matchesKeyword_iff`: so a text is found exactly if it has the keyword in one piece (`Contains`).
-/

namespace ChatLedger.Text

/-! ## Patterns -/

/-- The whole text fits the items: a run of any characters, any one character, or a letter up to its
case. -/
inductive Fits : List PatternItem → List Char → Prop where
  | nothing : Fits [] []
  | anyRun (run : List Char) {items text} : Fits items text → Fits (.anyRun :: items) (run ++ text)
  | anyOne (c : Char) {items text} : Fits items text → Fits (.anyOne :: items) (c :: text)
  | letter {c d : Char} {items text} : c.toLower = d.toLower → Fits items text →
      Fits (.letter c :: items) (d :: text)

theorem fits_nil_iff {text : List Char} : Fits [] text ↔ text = [] := by
  constructor
  · rintro ⟨⟩
    rfl
  · rintro rfl
    exact .nothing

theorem fits_anyRun_iff {items : List PatternItem} {text : List Char} :
    Fits (.anyRun :: items) text ↔ ∃ run rest, text = run ++ rest ∧ Fits items rest := by
  constructor
  · rintro (_ | ⟨run, rest⟩)
    exact ⟨run, _, rfl, rest⟩
  · rintro ⟨run, rest, rfl, fits⟩
    exact .anyRun run fits

theorem fits_anyOne_iff {items : List PatternItem} {text : List Char} :
    Fits (.anyOne :: items) text ↔ ∃ c rest, text = c :: rest ∧ Fits items rest := by
  constructor
  · rintro (_ | _ | ⟨c, rest⟩)
    exact ⟨c, _, rfl, rest⟩
  · rintro ⟨c, rest, rfl, fits⟩
    exact .anyOne c fits

theorem fits_letter_iff {c : Char} {items : List PatternItem} {text : List Char} :
    Fits (.letter c :: items) text ↔
      ∃ d rest, text = d :: rest ∧ c.toLower = d.toLower ∧ Fits items rest := by
  constructor
  · rintro (_ | _ | _ | ⟨same, rest⟩)
    exact ⟨_, _, rfl, same, rest⟩
  · rintro ⟨d, rest, rfl, same, fits⟩
    exact .letter same fits

/-- A run is empty, or has a first character. -/
theorem fits_anyRun_cons_iff {items : List PatternItem} {c : Char} {text : List Char} :
    Fits (.anyRun :: items) (c :: text) ↔
      Fits items (c :: text) ∨ Fits (.anyRun :: items) text := by
  simp only [fits_anyRun_iff, List.cons_eq_append_iff]
  constructor
  · rintro ⟨run, rest, ⟨rfl, rfl⟩ | ⟨run, rfl, rfl⟩, fits⟩
    · exact .inl fits
    · exact .inr ⟨run, rest, rfl, fits⟩
  · rintro (fits | ⟨run, rest, rfl, fits⟩)
    · exact ⟨[], _, .inl ⟨rfl, rfl⟩, fits⟩
    · exact ⟨c :: run, rest, .inr ⟨run, rfl, rfl⟩, fits⟩

/-- **What is matched is what fits.** -/
theorem matchesItems_iff (items : List PatternItem) (text : List Char) :
    matchesItems items text = true ↔ Fits items text := by
  fun_induction matchesItems items text with
  | case1 => simp [fits_nil_iff]
  | case2 c text => simp [fits_nil_iff]
  | case3 items ih => simp [ih, fits_anyRun_iff]
  | case4 items c text here later => simp [here, later, fits_anyRun_cons_iff]
  | case5 items => simp [fits_anyOne_iff]
  | case6 items c text ih => simp [ih, fits_anyOne_iff]
  | case7 d items => simp [fits_letter_iff]
  | case8 d items c text ih => simp [sameLetter, ih, fits_letter_iff]

/-- Letters, then a run to the end: the text begins with the letters. -/
theorem fits_letters_iff (letters : List Char) (text : List Char) :
    Fits (letters.map .letter ++ [.anyRun]) text ↔
      letters.map Char.toLower <+: text.map Char.toLower := by
  induction letters generalizing text with
  | nil =>
    have any : Fits [.anyRun] text := fits_anyRun_iff.2 ⟨text, [], by simp, .nothing⟩
    simp [any]
  | cons c letters ih =>
    rw [List.map_cons, List.cons_append, fits_letter_iff]
    cases text with
    | nil => simp
    | cons d text => simp [ih, List.cons_prefix_cons]

/-- **Letters between two runs**: the text has the letters in one piece. -/
theorem fits_between_iff (letters : List Char) (text : List Char) :
    Fits (.anyRun :: (letters.map .letter ++ [.anyRun])) text ↔
      letters.map Char.toLower <:+: text.map Char.toLower := by
  rw [fits_anyRun_iff, List.infix_iff_prefix_suffix]
  constructor
  · rintro ⟨run, rest, rfl, fits⟩
    refine ⟨rest.map Char.toLower, (fits_letters_iff letters rest).1 fits, ?_⟩
    rw [List.map_append]
    exact List.suffix_append _ _
  · rintro ⟨behind, start, hsuffix⟩
    obtain ⟨front, hfront⟩ := hsuffix
    obtain ⟨run, rest, rfl, -, rfl⟩ := List.map_eq_append_iff.1 hfront.symm
    exact ⟨run, rest, rfl, (fits_letters_iff letters rest).2 start⟩

/-! ## Keywords -/

/-- The characters that are escaped in the pattern of a keyword. -/
def IsSpecial (c : Char) : Prop := c = '%' ∨ c = '_' ∨ c = escapeChar

instance (c : Char) : Decidable (IsSpecial c) := by unfold IsSpecial; infer_instance

theorem escapeWildcards_special {c : Char} (h : IsSpecial c) (keyword : List Char) :
    escapeWildcards (c :: keyword) = escapeChar :: c :: escapeWildcards keyword := by
  unfold IsSpecial at h
  rw [escapeWildcards, List.flatMap_cons, if_pos h]
  rfl

theorem escapeWildcards_plain {c : Char} (h : ¬ IsSpecial c) (keyword : List Char) :
    escapeWildcards (c :: keyword) = c :: escapeWildcards keyword := by
  unfold IsSpecial at h
  rw [escapeWildcards, List.flatMap_cons, if_neg h]
  rfl

theorem readPattern_plain {c : Char} (h : ¬ IsSpecial c) (rest : List Char) :
    readPattern (c :: rest) = (readPattern rest).map (.letter c :: ·) := by
  have plain : c ≠ escapeChar ∧ c ≠ '%' ∧ c ≠ '_' := by
    unfold IsSpecial at h
    tauto
  cases rest <;> simp [readPattern, plain]

/-- **An escaped keyword is read as its letters**, whatever is behind it. -/
theorem readPattern_escapeWildcards (keyword rest : List Char) :
    readPattern (escapeWildcards keyword ++ rest) =
      (readPattern rest).map (keyword.map .letter ++ ·) := by
  induction keyword with
  | nil => simp [escapeWildcards]
  | cons c keyword ih =>
    by_cases special : IsSpecial c
    · rw [escapeWildcards_special special]
      simp [readPattern, ih, Function.comp_def]
    · rw [escapeWildcards_plain special, List.cons_append, readPattern_plain special, ih]
      simp [Function.comp_def]

theorem readPattern_containing (keyword : List Char) :
    readPattern (containing keyword) =
      some (.anyRun :: (keyword.map .letter ++ [.anyRun])) := by
  have front (rest : List Char) :
      readPattern ('%' :: rest) = (readPattern rest).map (.anyRun :: ·) := by
    cases rest <;> rfl
  rw [containing, front, readPattern_escapeWildcards]
  rfl

/-! ## What a search sees -/

/-- What a search does not tell apart becomes one: the cases of an ASCII letter, and the two code
points that are no characters with the replacement character. -/
def folded (c : Char) : Char := (replaceNonCharacter c).toLower

/-- The text has the keyword in one piece, up to what a search does not tell apart. -/
def Contains (keyword text : String) : Prop :=
  keyword.toList.map folded <:+: text.toList.map folded

instance (keyword text : String) : Decidable (Contains keyword text) := by
  unfold Contains; infer_instance

/-- Characters are seen as they are, apart from the two code points that are none. -/
theorem replaceNonCharacter_eq_self {c : Char} (h : c ≠ '\ufffe' ∧ c ≠ '\uffff') :
    replaceNonCharacter c = c := if_neg (by tauto)

/-- **Between texts of characters, the case of ASCII letters is all that a search overlooks.** -/
theorem contains_iff_of_characters {keyword text : String}
    (hkeyword : ∀ c ∈ keyword.toList, c ≠ '\ufffe' ∧ c ≠ '\uffff')
    (htext : ∀ c ∈ text.toList, c ≠ '\ufffe' ∧ c ≠ '\uffff') :
    Contains keyword text ↔
      keyword.toList.map Char.toLower <:+: text.toList.map Char.toLower := by
  have same {cs : List Char} (h : ∀ c ∈ cs, c ≠ '\ufffe' ∧ c ≠ '\uffff') :
      cs.map folded = cs.map Char.toLower :=
    List.map_congr_left fun c hc => congrArg Char.toLower (replaceNonCharacter_eq_self (h c hc))
  rw [Contains, same hkeyword, same htext]

theorem isSpecial_replaceNonCharacter (c : Char) :
    IsSpecial (replaceNonCharacter c) ↔ IsSpecial c := by
  by_cases h : c = '\ufffe' ∨ c = '\uffff'
  · rcases h with rfl | rfl <;> decide
  · rw [replaceNonCharacter, if_neg h]

/-- Escaping and seeing may change places: what is escaped is seen as it is. -/
theorem map_escapeWildcards (keyword : List Char) :
    (escapeWildcards keyword).map replaceNonCharacter =
      escapeWildcards (keyword.map replaceNonCharacter) := by
  induction keyword with
  | nil => rfl
  | cons c keyword ih =>
    by_cases special : IsSpecial c
    · rw [escapeWildcards_special special, List.map_cons, List.map_cons, ih, List.map_cons,
        escapeWildcards_special ((isSpecial_replaceNonCharacter c).2 special)]
      rfl
    · rw [escapeWildcards_plain special, List.map_cons, ih, List.map_cons,
        escapeWildcards_plain (mt (isSpecial_replaceNonCharacter c).1 special)]

theorem not_mem_containing {keyword : List Char} (h : '\x00' ∉ keyword) :
    '\x00' ∉ containing keyword := by
  simp only [containing, escapeWildcards, List.mem_cons, List.mem_append, List.mem_flatMap,
    List.not_mem_nil, or_false, not_or]
  refine ⟨by decide, ?_, by decide⟩
  rintro ⟨c, hc, hin⟩
  split at hin <;> simp only [List.mem_cons, List.not_mem_nil, or_false] at hin
  · rcases hin with hescape | rfl
    · exact absurd hescape (by decide)
    · exact h hc
  · exact h (hin ▸ hc)

/-- The pattern of a keyword is seen as that of what is seen of the keyword. -/
theorem searched_containing {keyword : List Char} (h : '\x00' ∉ keyword) :
    searched (containing keyword) = containing (keyword.map replaceNonCharacter) := by
  rw [searched, beforeNul_eq_self (not_mem_containing h), containing, containing, List.map_cons,
    List.map_append, map_escapeWildcards]
  rfl

/-- **A text is found exactly if it has the keyword in one piece**, where neither holds a NUL. -/
theorem matchesKeyword_iff {keyword text : String} (hkeyword : '\x00' ∉ keyword.toList)
    (htext : '\x00' ∉ text.toList) :
    matchesKeyword keyword text = true ↔ Contains keyword text := by
  rw [matchesKeyword, searched_containing hkeyword, matchesPattern, readPattern_containing,
    searched, beforeNul_eq_self htext]
  dsimp only
  rw [matchesItems_iff, fits_between_iff, List.map_map, List.map_map]
  rfl

/-- Wildcards and escape characters are found like letters. -/
example : Contains "50%_\\" "Up to 50%_\\!" ∧ ¬ Contains "50%_\\" "Up to 50 %a\\!" := by decide

end ChatLedger.Text
