import Mathlib.Algebra.Group.Nat.Defs
import ChatLedger.Proofs.Reading.Calendar
import ChatLedger.Store.Rows

/-!
# Times are read back

1. `Instant.instant?_reading`: what a clock shows names the instant again, but for a leap second
   behind a second that does not end a minute. That is shown, and so read, as the next second
   (`Instant.asShown`).
2. `Time.readStored_storedText`: the stored text of an instant of the years 0 to 9999 is read as
   that instant, as it is shown and to the microsecond (`Instant.kept`).
3. `Store.readTime_storedText`: the same for a time column. A time that is kept as it is
   (`Instant.IsKept`) is read back as it is.

Each reader is followed along the text that the writer of the same part has left.
-/

namespace ChatLedger.Time

/-! ## Padded numbers -/

theorem digitsValue_eq (cs : List Char) : digitsValue cs = Nat.ofDigitChars 10 cs 0 :=
  Nat.ofDigitChars_eq_foldl.symm

theorem digitsValue_padded (width n : Nat) : digitsValue (padded width n) = n := by
  unfold padded
  dsimp only
  rw [digitsValue_eq, Nat.ofDigitChars_append, Nat.ofDigitChars_replicate_zero, Nat.mul_zero,
    Nat.ofDigitChars_ten_toDigits]

theorem length_padded {width n : Nat} (hwidth : 0 < width) (h : n < 10 ^ width) :
    (padded width n).length = width := by
  have hle : (Nat.toDigits 10 n).length ≤ width :=
    (Nat.length_toDigits_le_iff (by decide) hwidth).2 h
  unfold padded
  dsimp only
  rw [List.length_append, List.length_replicate]
  omega

theorem le_length_padded (width n : Nat) : width ≤ (padded width n).length := by
  unfold padded
  dsimp only
  rw [List.length_append, List.length_replicate]
  omega

theorem isDigit_of_mem_padded {width n : Nat} {c : Char} (h : c ∈ padded width n) :
    c.isDigit = true := by
  unfold padded at h
  rcases List.mem_append.1 h with h | h
  · rw [List.eq_of_mem_replicate h]
    rfl
  · exact Nat.isDigit_of_mem_toDigits (by decide) (by decide) h

/-! ## Readers -/

theorem reader_bind {α β : Type} {x : Reader α} {f : α → Reader β} {cs rest : List Char} {a : α}
    (h : x cs = .ok (a, rest)) : (x >>= f) cs = f a rest := by
  show (x cs >>= fun p => f p.1 p.2) = f a rest
  rw [h]
  rfl

theorem reader_get (cs : List Char) : (get : Reader (List Char)) cs = .ok (cs, cs) := rfl

/-- A text has at least as many bytes as characters. -/
theorem length_le_byteLength (cs : List Char) : cs.length ≤ byteLength cs := by
  have general (n : Nat) : n + cs.length ≤ cs.foldl (fun n c => n + c.utf8Size) n := by
    induction cs generalizing n with
    | nil => exact Nat.le_refl _
    | cons c cs ih =>
      have hpos := c.utf8Size_pos
      have hrest := ih (n + c.utf8Size)
      rw [List.length_cons, List.foldl_cons]
      omega
  simpa [byteLength] using general 0

/-- Digits are read, as many as there may be and nothing else. -/
theorem readDigits_append {low high : Nat} {digits rest : List Char}
    (hdigits : ∀ c ∈ digits, c.isDigit = true) (hlow : low ≤ digits.length)
    (hhigh : digits.length ≤ high)
    (hrest : (rest.take (high - digits.length)).takeWhile Char.isDigit = []) :
    readDigits low high (digits ++ rest) = .ok (digits, rest) := by
  have hbytes := length_le_byteLength (digits ++ rest)
  have htake : ((digits ++ rest).take high).takeWhile Char.isDigit = digits := by
    rw [List.take_append, List.take_of_length_le hhigh, List.takeWhile_append_of_pos hdigits, hrest,
      List.append_nil]
  rw [List.length_append] at hbytes
  unfold readDigits
  rw [if_neg (by omega), htake]
  dsimp only
  rw [if_neg (by omega), List.drop_left]

theorem readDigits_padded {low high width n : Nat} {rest : List Char} (hwidth : 0 < width)
    (hn : n < 10 ^ width) (hlow : low ≤ width) (hhigh : width ≤ high)
    (hrest : (rest.take (high - width)).takeWhile Char.isDigit = []) :
    readDigits low high (padded width n ++ rest) = .ok (padded width n, rest) := by
  have hlen := length_padded hwidth hn
  rw [← hlen] at hlow hhigh hrest
  exact readDigits_append (fun _ hc => isDigit_of_mem_padded hc) hlow hhigh hrest

theorem readDigits_exact {width n : Nat} {rest : List Char} (hwidth : 0 < width)
    (hn : n < 10 ^ width) :
    readDigits width width (padded width n ++ rest) = .ok (padded width n, rest) :=
  readDigits_padded hwidth hn (Nat.le_refl _) (Nat.le_refl _) (by simp)

theorem readOneOf_cons {accepted : List Char} {c : Char} (h : accepted.contains c = true)
    (rest : List Char) : readOneOf accepted (c :: rest) = .ok ((), rest) :=
  if_pos h

/-! ## Dates and times of day -/

/-- Months and days lie in the ranges that their fields may have. -/
theorem Date.field_bounds {d : Date} (h : d.isValid = true) :
    1 ≤ d.month ∧ d.month ≤ 12 ∧ 1 ≤ d.day ∧ d.day ≤ 31 := by
  unfold Date.isValid daysInMonth at h
  simp only [Bool.and_eq_true, decide_eq_true_eq] at h
  have hlong := h.2
  refine ⟨h.1.1.1, h.1.1.2, h.1.2, ?_⟩
  split at hlong
  · split at hlong <;> omega
  · split at hlong <;> omega

/-- Months and days are written with two digits. -/
theorem Date.two_digits {d : Date} (h : d.isValid = true) : d.month < 10 ^ 2 ∧ d.day < 10 ^ 2 := by
  have hbounds := Date.field_bounds h
  omega

/-- The text of a date, with a rest behind it. -/
theorem readDate_text {year month day : Nat} (hyear : year < 10 ^ 4)
    (hvalid : (⟨year, month, day⟩ : Date).isValid = true) (rest : List Char) :
    readDate (padded 4 year ++ ('-' :: (padded 2 month ++ ('-' :: (padded 2 day ++ rest))))) =
      .ok (⟨year, month, day⟩, rest) := by
  obtain ⟨hmonth, hday⟩ := Date.two_digits hvalid
  unfold readDate
  rw [reader_bind (readDigits_exact (by decide) hyear), reader_bind (readOneOf_cons rfl _),
    reader_bind (readDigits_exact (by decide) hmonth), reader_bind (readOneOf_cons rfl _),
    reader_bind (readDigits_exact (by decide) hday)]
  simp only [digitsValue_padded, hvalid, if_true]
  rfl

/-- The text of a fraction, with a zone behind it. -/
theorem readFraction_text {width n : Nat} (hwidth : 0 < width) (hlong : width ≤ 9)
    (h : n < 10 ^ width) :
    readFraction ('.' :: (padded width n ++ ['Z'])) = .ok (n * 10 ^ (9 - width), ['Z']) := by
  have hend : (['Z'].take (9 - width)).takeWhile Char.isDigit = [] := by
    cases 9 - width <;> rfl
  have hdigits : readDigits 1 9 (padded width n ++ ['Z']) = .ok (padded width n, ['Z']) :=
    readDigits_padded hwidth h hwidth hlong hend
  have hnanos : readNanos (padded width n ++ ['Z']) = .ok (n * 10 ^ (9 - width), ['Z']) := by
    unfold readNanos
    rw [reader_bind hdigits, digitsValue_padded, length_padded hwidth h]
    rfl
  exact hnanos

/-- The text of a time of day, with a zone behind it. -/
theorem readClock_text {hour minute second micros : Nat} (date : Date) (hhour : hour < 24)
    (hminute : minute < 60) (hsecond : second < 61) (hmicros : micros < 10 ^ 6) :
    readClock date (padded 2 hour ++ (':' :: (padded 2 minute ++ (':' :: (padded 2 second ++
      ('.' :: (padded 6 micros ++ ['Z']))))))) =
      .ok (⟨date, hour, minute, second, micros * 1000⟩, ['Z']) := by
  unfold readClock
  rw [reader_bind (readDigits_exact (by decide) (by omega)), reader_bind (readOneOf_cons rfl _),
    reader_bind (readDigits_exact (by decide) (by omega)), reader_bind (readOneOf_cons rfl _),
    reader_bind (readDigits_exact (by decide) (by omega)),
    reader_bind (readFraction_text (by decide) (by decide) hmicros)]
  have hrange : ¬ (24 ≤ hour ∨ 60 ≤ minute ∨ 61 ≤ second) := by omega
  simp only [digitsValue_padded, hrange, if_false]
  rfl

/-! ## Stored times -/

/-- The year of the instant is written with four digits and no sign. -/
def Instant.HasFourDigitYear (t : Instant) : Prop :=
  0 ≤ t.reading.date.year ∧ t.reading.date.year ≤ 9999

instance (t : Instant) : Decidable t.HasFourDigitYear := inferInstanceAs (Decidable (_ ∧ _))

/-- All years that the clock shows are written so. -/
def Clock.HasFourDigitYears (c : Clock) : Prop := ∀ t ∈ c.readings, t.HasFourDigitYear

instance (c : Clock) : Decidable c.HasFourDigitYears :=
  inferInstanceAs (Decidable (∀ t ∈ c.readings, t.HasFourDigitYear))

theorem Clock.HasFourDigitYears.reading {c : Clock} (h : c.HasFourDigitYears) (n : Nat) :
    (c n).HasFourDigitYear := h _ (c.reading_mem n)

/-- One second before one o'clock on the first day of year 10000. -/
def Instant.year10000 : Instant :=
  { Instant.start2026 with
    seconds := 253402304399
    first_le := by decide
    le_last := by decide }

/-- A clock that stands still in year 10000. -/
def Clock.year10000 : Clock := .still .year10000

/-- What a clock shows lies in the ranges of its fields. -/
theorem Instant.reading_bounds (t : Instant) :
    t.reading.date.isValid = true ∧ t.reading.hour < 24 ∧ t.reading.minute < 60 ∧
      t.reading.second < 61 ∧ t.reading.nanos < second := by
  have hnanos := t.nanos_lt
  have hday : 0 ≤ t.seconds % 86400 ∧ t.seconds % 86400 < 86400 := by omega
  unfold Instant.reading
  dsimp only
  unfold second secondsPerDay at *
  refine ⟨Date.isValid_ofDays _, ?_, ?_, ?_, ?_⟩ <;> omega

theorem Instant.of?_self (t : Instant) : Instant.of? t.seconds t.nanos = some t := by
  unfold Instant.of?
  rw [dif_pos ⟨t.first_le, t.le_last, t.nanos_lt⟩]

/-! ### Leap seconds -/

/-- A clock shows the instant as no other: a leap second follows the last second of a minute. -/
def Instant.IsShown (t : Instant) : Prop := second ≤ t.nanos → t.seconds % 60 = 59

instance (t : Instant) : Decidable t.IsShown := inferInstanceAs (Decidable (_ → _))

/-- A third of the way into a leap second behind the fifth second of 2026. -/
def Instant.midMinuteLeap : Instant :=
  { Instant.start2026 with
    seconds := 1767225604
    nanos := 1333333333
    first_le := by decide
    le_last := by decide
    nanos_lt := by decide }

/-- The instant that a clock seems to show: behind a second that does not end a minute, a leap second
looks like the next second. -/
def Instant.asShown (t : Instant) : Instant :=
  if h : second ≤ t.nanos ∧ t.seconds % 60 ≠ 59 then
    { seconds := t.seconds + 1
      nanos := t.nanos - second
      first_le := Int.le_add_one t.first_le
      le_last := by
        have hlast := t.le_last
        have hmid := h.2
        unfold lastSecond at *
        omega
      nanos_lt := Nat.lt_of_le_of_lt (Nat.sub_le ..) t.nanos_lt }
  else t

theorem Instant.asShown_of_isShown {t : Instant} (h : t.IsShown) : t.asShown = t :=
  dif_neg fun hleap => hleap.2 (h hleap.1)

theorem Instant.isShown_asShown (t : Instant) : t.asShown.IsShown := by
  have hlt := t.nanos_lt
  unfold asShown
  split
  · intro hle
    dsimp only at hle
    omega
  · rename_i hleap
    exact fun hle => Decidable.not_not.1 fun hmid => hleap ⟨hle, hmid⟩

/-- A clock shows both alike. -/
theorem Instant.reading_asShown (t : Instant) : t.asShown.reading = t.reading := by
  have hlt := t.nanos_lt
  unfold asShown
  split
  · rename_i hleap
    obtain ⟨hle, hmid⟩ := hleap
    unfold second at *
    have hday : (t.seconds + 1) / 86400 = t.seconds / 86400 := by omega
    have hofDay : ((t.seconds + 1) % 86400).toNat = (t.seconds % 86400).toNat + 1 := by omega
    have hhour : ((t.seconds % 86400).toNat + 1) / 3600 = (t.seconds % 86400).toNat / 3600 := by
      omega
    have hminute : ((t.seconds % 86400).toNat + 1) / 60 = (t.seconds % 86400).toNat / 60 := by
      omega
    have hsecond : ((t.seconds % 86400).toNat + 1) % 60 + (t.nanos - 1000000000) / 1000000000 =
        (t.seconds % 86400).toNat % 60 + t.nanos / 1000000000 := by
      omega
    have hnanos : (t.nanos - 1000000000) % 1000000000 = t.nanos % 1000000000 := by omega
    unfold Instant.reading second secondsPerDay
    dsimp only
    rw [hday, hofDay, hhour, hminute, hsecond, hnanos]
  · rfl

/-- A clock reading names the instant that was shown as itself. -/
theorem Instant.instant?_reading_of_isShown {t : Instant} (hshown : t.IsShown) :
    t.reading.instant? 0 = some t := by
  have hnanos := t.nanos_lt
  have hleap : second ≤ t.nanos → t.seconds % 60 = 59 := hshown
  unfold second at hnanos hleap
  generalize hofDay : (t.seconds % 86400).toNat = ofDay
  -- a leap second shows as second 60, and is the only one that does
  have hsecond : ofDay % 60 + t.nanos / 1000000000 = 60 ↔ 1000000000 ≤ t.nanos := by omega
  have hshown : (if ofDay % 60 + t.nanos / 1000000000 = 60 then 59
      else ofDay % 60 + t.nanos / 1000000000) = ofDay % 60 := by
    split <;> omega
  have hfraction : (if ofDay % 60 + t.nanos / 1000000000 = 60 then
      t.nanos % 1000000000 + 1000000000 else t.nanos % 1000000000) = t.nanos := by
    split <;> omega
  have hat : t.seconds / 86400 * 86400 +
      (((ofDay / 3600 : Nat) : Int) * 3600 + ((ofDay / 60 % 60 : Nat) : Int) * 60 +
        ((ofDay % 60 : Nat) : Int)) = t.seconds := by
    omega
  have hdays := Date.toDays_ofDays (t.seconds / 86400)
  have hvalid := Date.isValid_ofDays (t.seconds / 86400)
  unfold ClockReading.instant? Instant.reading
  unfold second secondsPerDay
  dsimp only
  rw [hofDay, hshown, hfraction, hdays, hat, if_pos ⟨hvalid, t.first_le, t.le_last⟩, Int.sub_zero,
    t.of?_self]

/-- **What a clock shows is read** as the instant that it seems to show. -/
theorem Instant.instant?_reading (t : Instant) : t.reading.instant? 0 = some t.asShown := by
  rw [← t.reading_asShown, instant?_reading_of_isShown t.isShown_asShown]

/-! ### Microseconds -/

theorem Instant.IsShown.toMicros {t : Instant} (h : t.IsShown) : t.toMicros.IsShown :=
  fun hle => h (Nat.le_trans hle (Nat.div_mul_le_self ..))

/-- A clock shows the same time to the microsecond. -/
theorem Instant.reading_toMicros (t : Instant) :
    t.toMicros.reading = { t.reading with nanos := t.reading.nanos / 1000 * 1000 } := by
  have hleap : t.nanos / 1000 * 1000 / 1000000000 = t.nanos / 1000000000 := by omega
  have hnanos : t.nanos / 1000 * 1000 % 1000000000 = t.nanos % 1000000000 / 1000 * 1000 := by omega
  unfold Instant.toMicros Instant.reading
  unfold second
  dsimp only
  rw [hleap, hnanos]

/-- The characters of a stored time. -/
theorem Instant.toList_storedText {t : Instant} {year : Nat} (hyear : t.reading.date.year = year)
    (hle : year < 10 ^ 4) :
    t.storedText.toList = padded 4 year ++ ('-' :: (padded 2 t.reading.date.month ++
      ('-' :: (padded 2 t.reading.date.day ++ ('T' :: (padded 2 t.reading.hour ++
        (':' :: (padded 2 t.reading.minute ++ (':' :: (padded 2 t.reading.second ++
          ('.' :: (padded 6 (t.reading.nanos / 1000) ++ ['Z'])))))))))))) := by
  have hchars : yearChars t.reading.date.year = padded 4 year := by
    unfold yearChars
    rw [hyear, if_pos (by omega)]
    rfl
  unfold Instant.storedText ClockReading.chars
  dsimp only
  rw [String.toList_ofList, hchars]
  simp only [List.append_assoc, List.cons_append]

theorem readZone_utc (colon : Reader Unit) : readZone colon ['Z'] = .ok (0, []) := rfl

/-- The strict reader along a stored time. -/
theorem readStrict_storedText {t : Instant} (h : t.HasFourDigitYear) :
    readStrict t.storedText.toList =
      .ok (({ t.reading with nanos := t.reading.nanos / 1000 * 1000 }, 0), []) := by
  obtain ⟨hvalid, hhour, hminute, hsecond, hnanos⟩ := t.reading_bounds
  have hmicros : t.reading.nanos / 1000 < 10 ^ 6 := by
    unfold second at hnanos
    omega
  obtain ⟨year, hyear⟩ := Int.eq_ofNat_of_zero_le h.1
  have hle : year < 10 ^ 4 := by
    have hle := h.2
    omega
  have hdate : t.reading.date = ⟨year, t.reading.date.month, t.reading.date.day⟩ := by
    rw [← hyear]
  have hlong : strictLength ≤ byteLength t.storedText.toList := by
    have hlength := length_le_byteLength t.storedText.toList
    rw [t.toList_storedText hyear hle] at hlength ⊢
    simp only [List.length_append, List.length_cons] at hlength
    have hyear := le_length_padded 4 year
    have hmonth := le_length_padded 2 t.reading.date.month
    have hday := le_length_padded 2 t.reading.date.day
    have hhour := le_length_padded 2 t.reading.hour
    have hminute := le_length_padded 2 t.reading.minute
    have hsecond := le_length_padded 2 t.reading.second
    unfold strictLength
    omega
  rw [hdate] at hvalid
  unfold readStrict
  rw [reader_bind (reader_get _)]
  rw [if_neg (Nat.not_lt.2 hlong), t.toList_storedText hyear hle]
  dsimp only
  rw [reader_bind (readDate_text hle hvalid _), reader_bind (readOneOf_cons rfl _),
    reader_bind (readClock_text _ hhour hminute hsecond hmicros), reader_bind (readZone_utc _),
    ← hdate]
  rfl

/-- The instant that the store keeps of this one: as a clock shows it, without what is finer than a
microsecond. -/
def Instant.kept (t : Instant) : Instant := t.asShown.toMicros

theorem Instant.kept_of_isShown {t : Instant} (h : t.IsShown) : t.kept = t.toMicros := by
  unfold kept
  rw [asShown_of_isShown h]

theorem Instant.isShown_kept (t : Instant) : t.kept.IsShown := t.isShown_asShown.toMicros

/-- A clock shows the instant that is kept, down to the microsecond. -/
theorem Instant.reading_kept (t : Instant) :
    t.kept.reading = { t.reading with nanos := t.reading.nanos / 1000 * 1000 } := by
  unfold kept
  rw [reading_toMicros, t.reading_asShown]

/-- **Times are read back** from their stored texts, as they are shown and to the microsecond. -/
theorem readStored_storedText {t : Instant} (h : t.HasFourDigitYear) :
    readStored t.storedText = .ok t.kept := by
  unfold readStored
  rw [show readStrict.run t.storedText.toList = _ from readStrict_storedText h]
  dsimp only [bind, Except.bind, pure, Except.pure]
  rw [← t.reading_kept, Instant.instant?_reading_of_isShown t.isShown_kept]
  rfl

/-! ## Kept times -/

theorem Instant.storedText_kept (t : Instant) : t.kept.storedText = t.storedText := by
  unfold Instant.storedText
  rw [t.reading_kept]
  unfold ClockReading.chars
  dsimp only
  rw [Nat.mul_div_cancel _ (by decide)]

/-- The store keeps the instant to the microsecond. -/
structure Instant.IsStorable (t : Instant) : Prop where
  year : t.HasFourDigitYear
  shown : t.IsShown

instance (t : Instant) : Decidable t.IsStorable :=
  decidable_of_iff (t.HasFourDigitYear ∧ t.IsShown) ⟨fun h => ⟨h.1, h.2⟩, fun h => ⟨h.year, h.shown⟩⟩

/-- The store keeps all that the clock shows. -/
def Clock.IsStorable (c : Clock) : Prop := ∀ t ∈ c.readings, t.IsStorable

instance (c : Clock) : Decidable c.IsStorable :=
  inferInstanceAs (Decidable (∀ t ∈ c.readings, t.IsStorable))

theorem Clock.IsStorable.reading {c : Clock} (h : c.IsStorable) (n : Nat) : (c n).IsStorable :=
  h _ (c.reading_mem n)

theorem Instant.IsStorable.kept {t : Instant} (h : t.IsStorable) : t.kept = t.toMicros :=
  kept_of_isShown h.shown

/-- The store keeps the instant as it is. -/
structure Instant.IsKept (t : Instant) : Prop extends t.IsStorable where
  micros : t.toMicros = t

theorem Instant.IsKept.kept_eq {t : Instant} (h : t.IsKept) : t.kept = t := by
  rw [h.kept, h.micros]

theorem Instant.isKept_kept {t : Instant} (h : t.HasFourDigitYear) : t.kept.IsKept := by
  refine ⟨⟨?_, t.isShown_kept⟩, ?_⟩
  · unfold HasFourDigitYear
    rw [t.reading_kept]
    exact h
  · unfold kept
    generalize t.asShown = u
    have hnanos : u.nanos / 1000 * 1000 / 1000 * 1000 = u.nanos / 1000 * 1000 := by omega
    unfold toMicros
    simp only [hnanos]

end ChatLedger.Time

namespace ChatLedger.Store

open Time

/-- **Time columns are read back**, as they are shown and to the microsecond. -/
theorem readTime_storedText {t : Instant} (h : t.HasFourDigitYear) :
    readTime t.storedText = .ok t.kept := by
  unfold readTime
  rw [readStored_storedText h]
  rfl

/-- **Storable times are read back** to the microsecond. -/
theorem readTime_of_isStorable {t : Instant} (h : t.IsStorable) :
    readTime t.storedText = .ok t.toMicros := by
  rw [readTime_storedText h.year, h.kept]

/-- **Kept times are read back** as they are. -/
theorem readTime_of_isKept {t : Instant} (h : t.IsKept) : readTime t.storedText = .ok t := by
  rw [readTime_storedText h.year, h.kept_eq]

end ChatLedger.Store
