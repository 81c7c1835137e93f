import ChatLedger.Uuid

/-!
# Identifiers are read back

1. `Uuid.parse_text`: the text of an identifier names that identifier.
2. `Uuid.text_inj`: so two identifiers never share a text.
-/

namespace ChatLedger.Uuid

/-! ## Digits -/

theorem hexValue?_hexChar : ∀ d, hexValue? (hexChar d) = some d := by decide

theorem hexChar_ne_brace : ∀ d, hexChar d ≠ '{' := by decide

theorem toLower_hexChar_ne_u : ∀ d, (hexChar d).toLower ≠ 'u' := by decide

theorem hexDigits?_map_hexChar (digits : List (Fin 16)) :
    hexDigits? (digits.map hexChar) = some digits := by
  unfold hexDigits?
  induction digits with
  | nil => rfl
  | cons d digits ih => simp [List.mapM_cons, hexValue?_hexChar, ih]

/-! ## Groups -/

section Groups

variable (id : Uuid)

theorem length_group {start count : Nat} (h : start + count ≤ 32) :
    (group id.digits start count).length = count := by
  unfold group
  rw [List.length_map, List.length_take, List.length_drop, id.length_eq]
  omega

/-- Two groups side by side are one group. -/
theorem group_append (start count more : Nat) :
    group id.digits start count ++ group id.digits (start + count) more =
      group id.digits start (count + more) := by
  unfold group
  rw [← List.map_append, List.take_add, List.drop_drop]

theorem group_all : group id.digits 0 32 = id.digits.map hexChar := by
  unfold group
  rw [List.drop_zero, List.take_of_length_le (Nat.le_of_eq id.length_eq)]

/-- The text begins with a digit. -/
theorem chars_eq_cons : ∃ d rest, id.chars = hexChar d :: rest := by
  unfold chars
  cases hd : id.digits with
  | nil => have := id.length_eq; rw [hd] at this; cases this
  | cons d digits => exact ⟨d, _, rfl⟩

/-- The text is neither in braces nor behind a mark. -/
theorem unwrap?_chars : unwrap? id.chars = none := by
  obtain ⟨d, rest, hcs⟩ := id.chars_eq_cons
  have hmark : urnMark.isPrefixOf ((hexChar d :: rest).map Char.toLower) = false := by
    rw [List.map_cons]
    unfold urnMark
    rw [List.isPrefixOf_cons_cons]
    simp [(toLower_hexChar_ne_u d).symm]
  rw [hcs]
  unfold unwrap?
  split
  · rename_i heq _
    exact absurd (List.cons.inj heq).1 (hexChar_ne_brace d)
  · rw [hmark]; rfl

theorem length_chars : id.chars.length = 36 := by
  unfold chars
  simp only [List.length_append, List.length_cons]
  rw [id.length_group (by omega), id.length_group (by omega), id.length_group (by omega),
    id.length_group (by omega), id.length_group (by omega)]

/-- The five groups of the text hold the digits. -/
theorem ofGroups?_chars : ofGroups? id.chars = some id := by
  have h₀ : (group id.digits 0 8).length = 8 := id.length_group (by omega)
  have h₁ : (group id.digits 8 4).length = 4 := id.length_group (by omega)
  have h₂ : (group id.digits 12 4).length = 4 := id.length_group (by omega)
  have h₃ : (group id.digits 16 4).length = 4 := id.length_group (by omega)
  have hdigits : group id.digits 0 8 ++ group id.digits 8 4 ++ group id.digits 12 4 ++
      group id.digits 16 4 ++ group id.digits 20 12 = id.digits.map hexChar := by
    rw [id.group_append 0 8 4, id.group_append 0 12 4, id.group_append 0 16 4,
      id.group_append 0 20 12, group_all]
  have hmarks : ([8, 13, 18, 23].any fun i => id.chars[i]? != some '-') = false := by
    simp [chars, List.getElem?_append, List.getElem?_cons, h₀, h₁, h₂, h₃]
  have hparts : id.chars.take 8 ++ (id.chars.drop 9).take 4 ++ (id.chars.drop 14).take 4 ++
      (id.chars.drop 19).take 4 ++ id.chars.drop 24 = id.digits.map hexChar := by
    rw [← hdigits]
    simp (disch := omega) [chars, List.drop_append, List.drop_of_length_le, h₀, h₁, h₂, h₃]
  unfold ofGroups?
  rw [hmarks, hparts, hexDigits?_map_hexChar, length_chars]
  simp [ofDigits?, id.length_eq]

end Groups

/-! ## Texts -/

theorem parse?_text (id : Uuid) : parse? id.text = some id := by
  have hcs : id.text.toList = id.chars := String.toList_ofList
  unfold parse?
  simp [hcs, length_chars, unwrap?_chars, ofGroups?_chars]

/-- **Identifiers are read back** from their texts. -/
theorem parse_text (id : Uuid) : parse id.text = .ok id := by
  unfold parse
  rw [parse?_text]

theorem text_inj {a b : Uuid} : a.text = b.text ↔ a = b := by
  constructor
  · intro h
    have hab : parse a.text = parse b.text := congrArg parse h
    rw [parse_text, parse_text] at hab
    exact Except.ok.inj hab
  · exact congrArg text

end ChatLedger.Uuid
