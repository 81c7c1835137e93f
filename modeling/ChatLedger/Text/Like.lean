/-!
# Search patterns

Patterns with two wildcards and an escape character, as the store's searches use them:

1. `%` stands for any run of characters, `_` for any one character, an escaped character for
   itself, and any other character for itself up to the case of the 26 ASCII letters;
2. `containing keyword` is the pattern text of all texts that hold `keyword` literally: its
   wildcards are escaped and a `%` stands at either end;
3. pattern and text end at their first NUL, and the two last code points of the first plane, which
   are no characters, count as the replacement character.
-/

namespace ChatLedger.Text

/-- One item of a search pattern. -/
inductive PatternItem where
  | anyRun
  | anyOne
  | letter (c : Char)
  deriving Repr, DecidableEq

/-- The character that makes the next one literal. -/
def escapeChar : Char := '\\'

/-- The items of a pattern text, or none when it ends in a lone escape character and so matches
nothing. -/
def readPattern : List Char → Option (List PatternItem)
  | [] => some []
  | c :: rest =>
    if c = escapeChar then
      match rest with
      | [] => none
      | d :: rest => (readPattern rest).map (.letter d :: ·)
    else if c = '%' then (readPattern rest).map (.anyRun :: ·)
    else if c = '_' then (readPattern rest).map (.anyOne :: ·)
    else (readPattern rest).map (.letter c :: ·)

/-- The characters are equal up to the case of ASCII letters. -/
def sameLetter (c d : Char) : Bool := c.toLower == d.toLower

/-- The whole text fits the items. -/
def matchesItems : List PatternItem → List Char → Bool
  | [], [] => true
  | [], _ :: _ => false
  | .anyRun :: items, [] => matchesItems items []
  | .anyRun :: items, c :: text =>
    matchesItems items (c :: text) || matchesItems (.anyRun :: items) text
  | .anyOne :: _, [] => false
  | .anyOne :: items, _ :: text => matchesItems items text
  | .letter _ :: _, [] => false
  | .letter d :: items, c :: text => sameLetter d c && matchesItems items text
termination_by items text => items.length + text.length

/-- The whole text fits the pattern text. -/
def matchesPattern (pattern text : List Char) : Bool :=
  match readPattern pattern with
  | some items => matchesItems items text
  | none => false

/-- The keyword with its wildcards and escape characters escaped. -/
def escapeWildcards (keyword : List Char) : List Char :=
  keyword.flatMap fun c =>
    if c = '%' ∨ c = '_' ∨ c = escapeChar then [escapeChar, c] else [c]

/-- The pattern text of all texts that contain the keyword. -/
def containing (keyword : List Char) : List Char := '%' :: (escapeWildcards keyword ++ ['%'])

/-- The characters before the first NUL, where a search ends both pattern and text. -/
def beforeNul (cs : List Char) : List Char := cs.takeWhile (· != '\x00')

/-- A text without NUL is searched to its end. -/
theorem beforeNul_eq_self {cs : List Char} (h : '\x00' ∉ cs) : beforeNul cs = cs := by
  induction cs with
  | nil => rfl
  | cons c rest ih =>
    have hc : c ≠ '\x00' := fun e => h (e ▸ List.mem_cons_self)
    simp [beforeNul, hc] at ih ⊢
    exact ih fun hm => h (List.mem_cons_of_mem _ hm)

/-- The replacement character in place of a code point that is no character. -/
def replaceNonCharacter (c : Char) : Char := if c = '\ufffe' ∨ c = '\uffff' then '\ufffd' else c

/-- What a search sees of a pattern or a text. -/
def searched (cs : List Char) : List Char := (beforeNul cs).map replaceNonCharacter

/-- The text contains the keyword, up to the case of ASCII letters. -/
def matchesKeyword (keyword text : String) : Bool :=
  matchesPattern (searched (containing keyword.toList)) (searched text.toList)

end ChatLedger.Text
