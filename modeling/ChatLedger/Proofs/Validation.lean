import ChatLedger.Validation

/-!
# What checks let through

1. `Text.trim_trim`: a text without blanks at its ends is trimmed to itself.
2. A check passes just the texts within its bounds, and refuses all others as invalid.
3. `Decides` says this of a check as a whole, and is put together along the check.
-/

namespace ChatLedger.Text

/-- Characters that do not begin with a blank stay so when blanks are dropped at their end. -/
theorem dropWhile_dropEndBlanks {cs : List Char} (h : cs.dropWhile isBlank = cs) :
    (dropEndBlanks cs).dropWhile isBlank = dropEndBlanks cs := by
  have hprefix : dropEndBlanks cs <+: cs := by
    have hsuffix := List.dropWhile_suffix isBlank (l := cs.reverse)
    unfold dropEndBlanks
    rw [← List.reverse_suffix, List.reverse_reverse]
    exact hsuffix
  cases hcs : dropEndBlanks cs with
  | nil => rfl
  | cons c rest =>
    obtain ⟨more, rfl⟩ := hcs ▸ hprefix
    cases hc : isBlank c with
    | false => exact List.dropWhile_cons_of_neg (Bool.eq_false_iff.1 hc)
    | true =>
      -- a blank at the front would have been dropped
      have hshort := (List.dropWhile_suffix isBlank (l := rest ++ more)).length_le
      rw [List.cons_append, List.dropWhile_cons_of_pos hc] at h
      rw [h, List.length_cons] at hshort
      omega

theorem trimChars_trimChars (cs : List Char) : trimChars (trimChars cs) = trimChars cs := by
  have hstart (cs : List Char) : (cs.dropWhile isBlank).dropWhile isBlank = cs.dropWhile isBlank := by
    induction cs with
    | nil => rfl
    | cons c cs ih => cases hc : isBlank c <;> simp [hc, ih]
  have hend (cs : List Char) : dropEndBlanks (dropEndBlanks cs) = dropEndBlanks cs := by
    unfold dropEndBlanks
    rw [List.reverse_reverse, hstart]
  unfold trimChars
  rw [dropWhile_dropEndBlanks (hstart cs), hend]

/-- Trimming a trimmed text changes nothing. -/
theorem trim_trim (text : String) : trim (trim text) = trim text := by
  show String.ofList (trimChars (trim text).toList) = trim text
  rw [toList_trim, trimChars_trimChars]
  rfl

/-- Without the blanks at its ends, there is something left of the text, and at most so many
characters. -/
structure Within (max : Nat) (text : String) : Prop where
  something : trim text ≠ ""
  short : (trim text).length ≤ max

instance (max : Nat) (text : String) : Decidable (Within max text) :=
  decidable_of_iff (trim text ≠ "" ∧ (trim text).length ≤ max)
    ⟨fun ⟨something, short⟩ => ⟨something, short⟩, fun h => ⟨h.something, h.short⟩⟩

/-- The text has no blanks at its ends, is not empty, and has at most so many characters. -/
structure Tidy (max : Nat) (text : String) : Prop where
  trimmed : trim text = text
  something : text ≠ ""
  short : text.length ≤ max

instance (max : Nat) (text : String) : Decidable (Tidy max text) :=
  decidable_of_iff (trim text = text ∧ text ≠ "" ∧ text.length ≤ max)
    ⟨fun ⟨trimmed, something, short⟩ => ⟨trimmed, something, short⟩,
      fun h => ⟨h.trimmed, h.something, h.short⟩⟩

/-- What is left of a text within the bound is tidy. -/
theorem Within.tidy {max : Nat} {text : String} (h : Within max text) : Tidy max (trim text) :=
  ⟨trim_trim text, h.something, h.short⟩

end ChatLedger.Text

namespace ChatLedger

/-- The number is an amount of money. -/
structure IsAmount (x : Float) : Prop where
  finite : x.isFinite = true
  notNegative : ¬ x < 0.0

instance (x : Float) : Decidable (IsAmount x) :=
  decidable_of_iff (x.isFinite = true ∧ ¬ x < 0.0)
    ⟨fun ⟨finite, notNegative⟩ => ⟨finite, notNegative⟩, fun h => ⟨h.finite, h.notNegative⟩⟩

end ChatLedger

namespace ChatLedger.Validation

variable (field : String) {value : String} {max : Nat}

theorem boundedText_ok (h : value.length ≤ max) : boundedText field value max = .ok () :=
  if_pos (decide_eq_true h)

theorem boundedText_long (h : max < value.length) :
    ∃ reason, boundedText field value max = .error (.validationFailed reason) :=
  ⟨_, if_neg (by simpa using h)⟩

theorem requiredText_ok (hne : Text.trim value ≠ "") (hle : (Text.trim value).length ≤ max) :
    requiredText field value max = .ok (Text.trim value) := by
  have hsome : (!(Text.trim value).isEmpty) = true := by simpa using hne
  unfold requiredText require
  dsimp only
  rw [if_pos hsome, boundedText_ok field hle]
  rfl

/-- What a check of a text lets through is the text without the blanks at its ends. -/
theorem eq_trim_of_requiredText {field trimmed : String}
    (h : requiredText field value max = .ok trimmed) : trimmed = Text.trim value := by
  unfold requiredText at h
  dsimp only at h
  cases hsome : require (!(Text.trim value).isEmpty) (field ++ " must not be empty") with
  | error e => rw [hsome] at h; cases h
  | ok u =>
    rw [hsome] at h
    cases hlong : boundedText field (Text.trim value) max with
    | error e => rw [hlong] at h; cases h
    | ok u => rw [hlong] at h; cases h; rfl

/-- A text is refused that has nothing but blanks, or is too long without the blanks at its ends. -/
theorem requiredText_invalid (h : Text.trim value = "" ∨ max < (Text.trim value).length) :
    ∃ reason, requiredText field value max = .error (.validationFailed reason) := by
  unfold requiredText require
  dsimp only
  by_cases hne : Text.trim value = ""
  · rw [hne]
    exact ⟨_, rfl⟩
  · have hsome : (!(Text.trim value).isEmpty) = true := by simpa using hne
    obtain ⟨reason, hlong⟩ := boundedText_long field (h.resolve_left hne)
    rw [if_pos hsome, hlong]
    exact ⟨reason, rfl⟩

/-! ## Whole checks -/

/-- A check that passes with this value where the condition holds, and refuses everything else as
invalid. -/
structure Decides {α : Type} (outcome : Except ServiceError α) (condition : Prop) (a : α) :
    Prop where
  passes : condition → outcome = .ok a
  refuses : ¬ condition → ∃ reason, outcome = .error (.validationFailed reason)

section Decides

variable {α β : Type} {outcome : Except ServiceError α} {rest : Except ServiceError β}
  {P Q : Prop} {a : α} {b : β}

theorem Decides.of_ok (h : Decides outcome P a) {a' : α} (hok : outcome = .ok a') :
    P ∧ a' = a := by
  by_cases hP : P
  · rw [h.passes hP] at hok
    exact ⟨hP, (Except.ok.inj hok).symm⟩
  · obtain ⟨reason, herror⟩ := h.refuses hP
    rw [herror] at hok
    cases hok

theorem decides_pure : Decides (pure a) True a := ⟨fun _ => rfl, fun h => absurd trivial h⟩

/-- One check, then another, whatever the first one passes with. -/
theorem Decides.andThen (h : Decides outcome P a) (hrest : Decides rest Q b) :
    Decides (outcome >>= fun _ => rest) (P ∧ Q) b := by
  constructor
  · rintro ⟨hP, hQ⟩
    rw [h.passes hP]
    exact hrest.passes hQ
  · intro hnot
    by_cases hP : P
    · rw [h.passes hP]
      exact hrest.refuses fun hQ => hnot ⟨hP, hQ⟩
    · obtain ⟨reason, herror⟩ := h.refuses hP
      rw [herror]
      exact ⟨reason, rfl⟩

theorem Decides.congr (h : Decides outcome P a) (hPQ : P ↔ Q) : Decides outcome Q a :=
  ⟨fun hQ => h.passes (hPQ.2 hQ), fun hQ => h.refuses fun hP => hQ (hPQ.1 hP)⟩

end Decides

theorem require_decides (condition : Bool) (reason : String) :
    Decides (require condition reason) (condition = true) () := by
  constructor
  · exact fun h => if_pos h
  · exact fun h => ⟨reason, if_neg h⟩

theorem boundedText_decides (field value : String) (max : Nat) :
    Decides (boundedText field value max) (value.length ≤ max) () :=
  ⟨boundedText_ok field, fun h => boundedText_long field (Nat.lt_of_not_le h)⟩

theorem requiredText_decides (field value : String) (max : Nat) :
    Decides (requiredText field value max) (Text.Within max value) (Text.trim value) := by
  constructor
  · exact fun h => requiredText_ok field h.something h.short
  · intro h
    refine requiredText_invalid field ?_
    by_cases hnone : Text.trim value = ""
    · exact .inl hnone
    · exact .inr (Nat.lt_of_not_le fun hshort => h ⟨hnone, hshort⟩)

theorem cost_decides (field : String) (x : Float) : Decides (cost field x) (IsAmount x) () :=
  (require_decides _ _).congr <| by
    rw [Bool.and_eq_true, Bool.not_eq_true', decide_eq_false_iff_not]
    exact ⟨fun ⟨finite, notNegative⟩ => ⟨finite, notNegative⟩, fun h => ⟨h.finite, h.notNegative⟩⟩

end ChatLedger.Validation
