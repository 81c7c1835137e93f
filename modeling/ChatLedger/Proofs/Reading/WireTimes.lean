import ChatLedger.Proofs.Reading.Order

/-!
# Times of documents are read back

1. `Time.readWire?_wireText`: the text that a document holds for an instant is read as that instant,
   as a clock shows it and to the nanosecond, whatever its year. The lenient reader is followed along
   the text, where the blanks that it would skip never stand.
2. `Time.isShown_of_readWire?`: what is read from a text is shown by clocks, since a zone never shifts
   a leap second away from the end of a minute. So times that have been read are read back as they
   are.
-/

namespace ChatLedger.Time

open Text

/-! ## Blanks -/

theorem isBlank_of_isDigit {c : Char} (h : c.isDigit = true) : isBlank c = false := by
  have hlow : 48 ≤ c.toNat ∧ c.toNat ≤ 57 := by
    simpa [Char.isDigit, UInt32.le_iff_toNat_le] using h
  simp [isBlank, inRanges, blankRanges]
  omega

theorem trimStart_cons {c : Char} (h : isBlank c = false) (rest : List Char) :
    trimStart (c :: rest) = c :: rest := by
  unfold trimStart
  rw [List.dropWhile_cons_of_neg (Bool.eq_false_iff.1 h)]

/-- A padded number begins with a digit. -/
theorem padded_eq_cons {width : Nat} (hwidth : 0 < width) (n : Nat) :
    ∃ c rest, padded width n = c :: rest ∧ c.isDigit = true := by
  cases hcs : padded width n with
  | nil =>
    have hle := le_length_padded width n
    rw [hcs, List.length_nil] at hle
    omega
  | cons c rest =>
    have hmem : c ∈ padded width n := by
      rw [hcs]
      exact List.mem_cons_self
    exact ⟨c, rest, rfl, isDigit_of_mem_padded hmem⟩

theorem skipBlanks_padded {width : Nat} (hwidth : 0 < width) (n : Nat) (rest : List Char) :
    skipBlanks (padded width n ++ rest) = .ok ((), padded width n ++ rest) := by
  obtain ⟨c, more, hcs, hc⟩ := padded_eq_cons hwidth n
  rw [hcs]
  exact congrArg (fun cs => Except.ok ((), cs)) (trimStart_cons (isBlank_of_isDigit hc) _)

theorem skipBlanks_cons {c : Char} (h : isBlank c = false) (rest : List Char) :
    skipBlanks (c :: rest) = .ok ((), c :: rest) :=
  congrArg (fun cs => Except.ok ((), cs)) (trimStart_cons h rest)

/-! ## Parts of a time -/

theorem reader_set (cs rest : List Char) : (set rest : Reader PUnit) cs = .ok ((), rest) := rfl

theorem readSeparator_cons {c : Char} (h : isBlank c = false) (rest : List Char) :
    readSeparator c (c :: rest) = .ok ((), rest) := by
  unfold readSeparator
  rw [reader_bind (skipBlanks_cons h rest)]
  exact readOneOf_cons (by simp) rest

theorem readField_text {low high n : Nat} (hlow : low ≤ n) (hhigh : n ≤ high) (hn : n < 10 ^ 2)
    (rest : List Char) : readField low high (padded 2 n ++ rest) = .ok (n, rest) := by
  unfold readField
  rw [reader_bind (skipBlanks_padded (by decide) n rest),
    reader_bind (readDigits_padded (by decide) hn (by decide) (by decide) (by simp)),
    digitsValue_padded]
  unfold within
  rw [if_pos ⟨hlow, hhigh⟩]
  rfl

/-- The digits of a year behind its sign. -/
theorem readDigits_year (n : Nat) (rest : List Char) :
    readDigits 1 (padded 4 n ++ '-' :: rest).length (padded 4 n ++ '-' :: rest) =
      .ok (padded 4 n, '-' :: rest) := by
  have hlen := le_length_padded 4 n
  refine readDigits_append (fun _ hc => isDigit_of_mem_padded hc) (by omega) ?_ ?_
  · rw [List.length_append]
    omega
  · rw [List.length_append, Nat.add_sub_cancel_left]
    rfl

/-- A year without a sign has up to four digits. -/
theorem readYear_unsigned {c : Char} (h : c.isDigit = true) (rest : List Char) :
    readYear (c :: rest) = (do return (digitsValue (← readDigits 1 4) : Int) : Reader Int)
      (c :: rest) := by
  unfold readYear
  rw [reader_bind (skipBlanks_cons (isBlank_of_isDigit h) rest), reader_bind (reader_get _)]
  generalize hcs : c :: rest = cs
  split
  · cases hcs
    cases h
  · cases hcs
    cases h
  · rfl

theorem readYear_signed (negative : Bool) (n : Nat) (rest : List Char) :
    readYear ((if negative then '-' else '+') :: (padded 4 n ++ '-' :: rest)) =
      .ok (if negative then -n else n, '-' :: rest) := by
  cases negative
  all_goals
    unfold readYear
    rw [reader_bind (skipBlanks_cons (by decide) _), reader_bind (reader_get _)]
    show (set _ >>= fun _ => _ : Reader Int) _ = _
    rw [reader_bind (reader_set _ _), reader_bind (readDigits_year _ _), digitsValue_padded]
    rfl

/-- A year is read, with or without its sign, up to the hyphen behind it. -/
theorem readYear_text (year : Int) (rest : List Char) :
    readYear (yearChars year ++ '-' :: rest) = .ok (year, '-' :: rest) := by
  unfold yearChars
  split
  · rename_i hyear
    obtain ⟨n, rfl⟩ := Int.eq_ofNat_of_zero_le hyear.1
    have hn : n < 10 ^ 4 := by omega
    obtain ⟨c, more, hcs, hc⟩ := padded_eq_cons (show 0 < 4 by decide) n
    rw [Int.toNat_natCast, hcs, List.cons_append, readYear_unsigned hc, ← List.cons_append, ← hcs,
      reader_bind (readDigits_padded (by decide) hn (by decide) (by decide) (by simp)),
      digitsValue_padded]
    rfl
  · split
    · rename_i hneg
      refine (readYear_signed true _ _).trans ?_
      rw [if_pos rfl, show -(year.natAbs : Int) = year by omega]
    · rename_i hyear hneg
      refine (readYear_signed false _ _).trans ?_
      rw [if_neg Bool.false_ne_true, show (year.natAbs : Int) = year by omega]

/-- The text of a fraction in the fewest groups of digits, with a zone behind it. -/
theorem readFraction_fractionChars {nanos : Nat} (h : nanos < second) :
    readFraction (fractionChars nanos ++ ['Z']) = .ok (nanos, ['Z']) := by
  unfold second at h
  unfold fractionChars
  split
  · rename_i hzero
    rw [hzero]
    rfl
  · split
    · rw [List.cons_append, readFraction_text (by decide) (by decide) (by omega)]
      rw [show nanos / 1000000 * 10 ^ (9 - 3) = nanos by omega]
    · split
      · rw [List.cons_append, readFraction_text (by decide) (by decide) (by omega)]
        rw [show nanos / 1000 * 10 ^ (9 - 6) = nanos by omega]
      · rw [List.cons_append, readFraction_text (by decide) (by decide) h]
        rw [Nat.sub_self, Nat.pow_zero, Nat.mul_one]

theorem readNamedZone_utc : readNamedZone ['Z'] = .ok (0, []) := rfl

/-- The characters of a time of a document. -/
theorem Instant.toList_wireText (t : Instant) :
    t.wireText.toList = yearChars t.reading.date.year ++ ('-' :: (padded 2 t.reading.date.month ++
      ('-' :: (padded 2 t.reading.date.day ++ ('T' :: (padded 2 t.reading.hour ++
        (':' :: (padded 2 t.reading.minute ++ (':' :: (padded 2 t.reading.second ++
          (fractionChars t.reading.nanos ++ ['Z']))))))))))) := by
  unfold Instant.wireText ClockReading.chars
  dsimp only
  rw [String.toList_ofList]
  simp only [List.append_assoc, List.cons_append]

/-- The lenient reader along the text of a document. -/
theorem readLenient_wireText (t : Instant) :
    readLenient t.wireText.toList = .ok ((t.reading, 0), []) := by
  obtain ⟨hvalid, hhour, hminute, hsecond, hnanos⟩ := t.reading_bounds
  obtain ⟨hjanuary, hdecember, hfirst, hlast⟩ := Date.field_bounds hvalid
  rw [t.toList_wireText]
  unfold readLenient
  rw [reader_bind (readYear_text _ _), reader_bind (readSeparator_cons (by decide) _),
    reader_bind (readField_text hjanuary hdecember (by omega) _),
    reader_bind (readSeparator_cons (by decide) _),
    reader_bind (readField_text hfirst hlast (by omega) _), reader_bind (readOneOf_cons rfl _),
    reader_bind (readField_text (by omega) (by omega) (by omega) _),
    reader_bind (readSeparator_cons (by decide) _),
    reader_bind (readField_text (by omega) (by omega) (by omega) _),
    reader_bind (readSeparator_cons (by decide) _),
    reader_bind (readField_text (by omega) (by omega) (by omega) _),
    reader_bind (readFraction_fractionChars hnanos), reader_bind readNamedZone_utc]
  rfl

/-- **Times of documents are read back**, as they are shown and to the nanosecond. -/
theorem readWire?_wireText (t : Instant) : readWire? t.wireText = some t.asShown := by
  unfold readWire?
  rw [show readLenient.run t.wireText.toList = _ from readLenient_wireText t]
  dsimp only
  rw [if_pos (show trimStart [] = [] from rfl), t.instant?_reading]

/-! ## Times that have been read -/

/-- Whatever is read meets the condition. -/
def Meets {α : Type} (r : Reader α) (P : α → Prop) : Prop :=
  ∀ (cs : List Char) (a : α) (rest : List Char), r cs = .ok (a, rest) → P a

section Meets

variable {α β : Type} {x : Reader α} {f : α → Reader β} {Q : α → Prop} {P : β → Prop}

theorem meets_bind (hx : Meets x Q) (hf : ∀ a, Q a → Meets (f a) P) : Meets (x >>= f) P := by
  intro cs b rest h
  change (x cs >>= fun p => f p.1 p.2) = .ok (b, rest) at h
  cases hread : x cs with
  | error e =>
    rw [hread] at h
    cases h
  | ok p =>
    rw [hread] at h
    exact hf p.1 (hx cs p.1 p.2 hread) p.2 b rest h

/-- What is read before makes no difference. -/
theorem meets_behind (hf : ∀ a, Meets (f a) P) : Meets (x >>= f) P :=
  meets_bind (Q := fun _ => True) (fun _ _ _ _ => trivial) fun a _ => hf a

theorem meets_pure {b : β} (h : P b) : Meets (pure b) P := by
  intro cs b' rest hb
  cases hb
  exact h

theorem meets_throw (fault : TimeFault) : Meets (throw fault) P := by
  intro cs b rest h
  cases h

end Meets

/-- Digits stand for a number of as many places. -/
theorem digitsValue_lt {cs : List Char} (h : ∀ c ∈ cs, c.isDigit = true) :
    digitsValue cs < 10 ^ cs.length := by
  have hbounds := (ofDigitChars_bounds h 0).2
  rwa [← digitsValue_eq, Nat.zero_add, Nat.one_mul] at hbounds

/-- A fraction is less than a second. -/
theorem meets_readFraction : Meets readFraction fun nanos => nanos < second := by
  have digits : Meets (readDigits 1 9) fun digits =>
      (∀ c ∈ digits, c.isDigit = true) ∧ digits.length ≤ 9 := by
    intro cs digits rest h
    unfold readDigits at h
    split at h
    · cases h
    · dsimp only at h
      split at h
      · cases h
      · cases h
        exact ⟨List.all_eq_true.1 List.all_takeWhile,
          Nat.le_trans (List.takeWhile_sublist _).length_le (List.length_take_le ..)⟩
  have nanos : Meets readNanos fun nanos => nanos < second := by
    refine meets_bind digits fun digits ⟨hdigits, hlength⟩ => meets_behind fun _ => meets_pure ?_
    calc digitsValue digits * 10 ^ (9 - digits.length)
        < 10 ^ digits.length * 10 ^ (9 - digits.length) :=
          Nat.mul_lt_mul_of_pos_right (digitsValue_lt hdigits) (Nat.pow_pos (by decide))
      _ = second := by rw [← Nat.pow_add, Nat.add_sub_cancel' hlength]; rfl
  refine meets_behind fun cs => ?_
  split
  · exact meets_behind fun _ => nanos
  · exact meets_pure (by decide)

/-- A zone is a whole number of minutes. -/
theorem meets_readZone (colon : Reader Unit) : Meets (readZone colon) fun offset => offset % 60 = 0 := by
  refine meets_behind fun cs => ?_
  split
  · exact meets_throw _
  · refine meets_behind fun _ => ?_
    split
    · exact meets_pure rfl
    · split
      · refine meets_behind fun hours => meets_behind fun _ => meets_behind fun minutes =>
          meets_pure ?_
        split <;> omega
      · exact meets_throw _

theorem meets_readNamedZone : Meets readNamedZone fun offset => offset % 60 = 0 := by
  refine meets_behind fun _ => meets_behind fun cs => ?_
  split
  · split
    · exact meets_behind fun _ => meets_pure rfl
    · exact meets_readZone _
  · exact meets_readZone _

theorem meets_readLenient :
    Meets readLenient fun found => found.1.nanos < second ∧ found.2 % 60 = 0 := by
  refine meets_behind fun _ => meets_behind fun _ => meets_behind fun _ => meets_behind fun _ =>
    meets_behind fun _ => meets_behind fun _ => meets_behind fun _ => meets_behind fun _ =>
      meets_behind fun _ => meets_behind fun _ => meets_behind fun _ => ?_
  refine meets_bind meets_readFraction fun nanos hnanos => ?_
  refine meets_bind meets_readNamedZone fun offset hoffset => ?_
  split
  · exact meets_behind fun _ => meets_pure ⟨hnanos, hoffset⟩
  · exact meets_pure ⟨hnanos, hoffset⟩

theorem Instant.of?_eq_some {seconds : Int} {nanos : Nat} {t : Instant}
    (h : Instant.of? seconds nanos = some t) : t.seconds = seconds ∧ t.nanos = nanos := by
  unfold Instant.of? at h
  split at h
  · cases h
    exact ⟨rfl, rfl⟩
  · cases h

/-- A clock that runs whole minutes ahead shows a leap second at the end of a minute only. -/
theorem ClockReading.isShown_of_instant? {r : ClockReading} {offset : Int} {t : Instant}
    (h : r.instant? offset = some t) (hnanos : r.nanos < Time.second) (hoffset : offset % 60 = 0) :
    t.IsShown := by
  unfold ClockReading.instant? at h
  dsimp only at h
  rw [Option.ite_none_right_eq_some] at h
  obtain ⟨hseconds, hcount⟩ := Instant.of?_eq_some h.2
  intro hleap
  rw [hcount] at hleap
  rw [hseconds]
  unfold Time.second secondsPerDay at *
  by_cases hlast : r.second = 60
  · rw [if_pos hlast]
    omega
  · rw [if_neg hlast] at hleap
    omega

/-- **What is read is shown by clocks.** -/
theorem isShown_of_readWire? {text : String} {t : Instant} (h : readWire? text = some t) :
    t.IsShown := by
  unfold readWire? at h
  split at h
  · rename_i reading offset rest hread
    obtain ⟨hnanos, hoffset⟩ := meets_readLenient _ _ _ hread
    split at h
    · exact ClockReading.isShown_of_instant? h hnanos hoffset
    · cases h
  · cases h

end ChatLedger.Time
