import ChatLedger.Proofs.Reading.Order

/-!
# Time columns as bytes

Stored times are compared by the bytes of their texts. For the years 0 to 9999 these are all of one
length, and their order is the order of the instants at the microseconds that they keep.

1. `bytesOf_of_ascii` and `map_toUInt8_lt`: texts of one-byte characters are in the order of their
   bytes.
2. `Instant.length_storedText` and `Instant.ascii_storedText`: a stored time has 27 characters, of
   one byte each.
-/

namespace ChatLedger

/-- The bytes of a text. -/
def bytesOf (s : String) : List UInt8 := s.toUTF8.data.toList

/-! ## Characters of one byte -/

section Ascii

variable {cs ds : List Char}

/-- A character of one byte is that byte. -/
theorem bytesOf_of_ascii (h : ∀ c ∈ cs, c.toNat < 128) :
    bytesOf (String.ofList cs) = cs.map Char.toUInt8 := by
  have hbytes : cs.flatMap String.utf8EncodeChar = cs.map Char.toUInt8 := by
    induction cs with
    | nil => rfl
    | cons c cs ih =>
      have hc : c.utf8Size = 1 :=
        Char.utf8Size_eq_one_iff.2
          (UInt32.le_iff_toNat_le.2 (Nat.le_of_lt_succ (h c List.mem_cons_self)))
      rw [List.flatMap_cons, String.utf8EncodeChar_eq_singleton hc,
        ih fun c hc => h c (List.mem_cons_of_mem _ hc)]
      rfl
  show (cs.flatMap String.utf8EncodeChar).toByteArray.data.toList = _
  rw [List.data_toByteArray, hbytes]

theorem toNat_toUInt8 {c : Char} (h : c.toNat < 128) : c.toUInt8.toNat = c.toNat :=
  Nat.mod_eq_of_lt (Nat.lt_trans h (by decide))

/-- Characters of one byte are in the order of their bytes. -/
theorem toUInt8_lt {c d : Char} (hc : c.toNat < 128) (hd : d.toNat < 128) :
    c.toUInt8 < d.toUInt8 ↔ c < d := by
  rw [UInt8.lt_iff_toNat_lt, toNat_toUInt8 hc, toNat_toUInt8 hd]
  exact UInt32.lt_iff_toNat_lt.symm

theorem toUInt8_inj {c d : Char} (hc : c.toNat < 128) (hd : d.toNat < 128) :
    c.toUInt8 = d.toUInt8 ↔ c = d := by
  rw [← UInt8.toNat_inj, toNat_toUInt8 hc, toNat_toUInt8 hd]
  exact Char.toNat_inj

/-- **Texts of one-byte characters are in the order of their bytes.** -/
theorem map_toUInt8_lt (hcs : ∀ c ∈ cs, c.toNat < 128) (hds : ∀ d ∈ ds, d.toNat < 128) :
    cs.map Char.toUInt8 < ds.map Char.toUInt8 ↔ cs < ds := by
  induction cs generalizing ds with
  | nil => cases ds <;> simp
  | cons c cs ih =>
    cases ds with
    | nil => simp
    | cons d ds =>
      obtain ⟨hc, hcs⟩ := List.forall_mem_cons.1 hcs
      obtain ⟨hd, hds⟩ := List.forall_mem_cons.1 hds
      rw [List.map_cons, List.map_cons, List.cons_lt_cons_iff, List.cons_lt_cons_iff,
        toUInt8_lt hc hd, toUInt8_inj hc hd, ih hcs hds]

end Ascii

end ChatLedger

namespace ChatLedger.Time

/-! ## Stored times -/

theorem ascii_of_mem_padded {width n : Nat} {c : Char} (h : c ∈ padded width n) : c.toNat < 128 :=
  Nat.lt_of_le_of_lt (toNat_of_isDigit (isDigit_of_mem_padded h)).2 (by decide)

section Stored

variable {t u : Instant}

/-- A stored time is written in one-byte characters. -/
theorem Instant.ascii_storedText (h : t.HasFourDigitYear) :
    ∀ c ∈ t.storedText.toList, c.toNat < 128 := by
  obtain ⟨year, hyear⟩ := Int.eq_ofNat_of_zero_le h.1
  have hle : year < 10 ^ 4 := by
    have hle := h.2
    omega
  rw [t.toList_storedText hyear hle]
  have mark {c : Char} {cs : List Char} (hc : c.toNat < 128) (hcs : ∀ c ∈ cs, c.toNat < 128) :
      ∀ d ∈ c :: cs, d.toNat < 128 := List.forall_mem_cons.2 ⟨hc, hcs⟩
  have field {width n : Nat} {cs : List Char} (hcs : ∀ c ∈ cs, c.toNat < 128) :
      ∀ c ∈ padded width n ++ cs, c.toNat < 128 :=
    List.forall_mem_append.2 ⟨fun _ => ascii_of_mem_padded, hcs⟩
  exact field (mark (by decide) (field (mark (by decide) (field (mark (by decide)
    (field (mark (by decide) (field (mark (by decide) (field (mark (by decide)
      (field (mark (by decide) (by simp))))))))))))))

/-- **Stored times are all of one length.** -/
theorem Instant.length_storedText (h : t.HasFourDigitYear) : t.storedText.toList.length = 27 := by
  obtain ⟨hvalid, hhour, hminute, hsecond, hnanos⟩ := t.reading_bounds
  obtain ⟨hmonth, hday⟩ := Date.two_digits hvalid
  obtain ⟨year, hyear⟩ := Int.eq_ofNat_of_zero_le h.1
  have hle : year < 10 ^ 4 := by
    have hle := h.2
    omega
  have hmicros : t.reading.nanos / 1000 < 10 ^ 6 := by
    unfold Time.second at hnanos
    omega
  rw [t.toList_storedText hyear hle]
  simp only [List.length_append, List.length_cons, List.length_nil]
  rw [length_padded (by decide) hle, length_padded (by decide) hmonth,
    length_padded (by decide) hday, length_padded (by decide) (by omega),
    length_padded (by decide) (by omega), length_padded (by decide) (by omega),
    length_padded (by decide) hmicros]

theorem Instant.bytesOf_storedText (h : t.HasFourDigitYear) :
    bytesOf t.storedText = t.storedText.toList.map Char.toUInt8 := by
  have hbytes := bytesOf_of_ascii (Instant.ascii_storedText h)
  rwa [String.ofList_toList] at hbytes

/-- The bytes of stored times are in the order of the instants that they keep. -/
theorem Instant.bytesOf_storedText_lt (ht : t.HasFourDigitYear) (hu : u.HasFourDigitYear) :
    bytesOf t.storedText < bytesOf u.storedText ↔ t.kept.Before u.kept := by
  have hkept := storedText_lt (isKept_kept ht) (isKept_kept hu)
  rw [storedText_kept, storedText_kept] at hkept
  rw [bytesOf_storedText ht, bytesOf_storedText hu,
    map_toUInt8_lt (ascii_storedText ht) (ascii_storedText hu)]
  exact hkept

/-- The first instant does not come after the second. -/
def Instant.NotAfter (t u : Instant) : Prop :=
  t.seconds < u.seconds ∨ t.seconds = u.seconds ∧ t.nanos ≤ u.nanos

theorem Instant.notAfter_iff : t.NotAfter u ↔ ¬ u.Before t := by
  unfold NotAfter Before
  omega

theorem Instant.bytesOf_storedText_le (ht : t.HasFourDigitYear) (hu : u.HasFourDigitYear) :
    bytesOf t.storedText ≤ bytesOf u.storedText ↔ t.kept.NotAfter u.kept := by
  rw [notAfter_iff, ← bytesOf_storedText_lt hu ht, List.not_lt]

end Stored

end ChatLedger.Time

namespace ChatLedger.Store

open Time

/-- **Time columns keep the order of times.** For instants in the years 0 to 9999 the text of a column
has always the same length, it is read back as the instant that it keeps, and texts compare by their
bytes as these instants do. What is kept of an instant is the instant without what is finer than a
microsecond, leap seconds included, but for a leap second behind a second that does not end a minute:
that one is kept as the next second. -/
theorem time_columns_keep_order (t u : Instant) (ht : t.HasFourDigitYear)
    (hu : u.HasFourDigitYear) :
    (bytesOf t.storedText).length = 27 ∧ readTime t.storedText = .ok t.kept ∧
      (bytesOf t.storedText ≤ bytesOf u.storedText ↔ t.kept.NotAfter u.kept) ∧
      (t.IsShown → u.IsShown → t.kept = t.toMicros ∧ u.kept = u.toMicros) := by
  refine ⟨?_, readTime_storedText ht, Instant.bytesOf_storedText_le ht hu,
    fun ht hu => ⟨Instant.kept_of_isShown ht, Instant.kept_of_isShown hu⟩⟩
  rw [Instant.bytesOf_storedText ht, List.length_map, Instant.length_storedText ht]

/-- The last nanosecond of the leap second at the end of 2016. -/
def lastLeapSecond : Instant :=
  { Instant.start2026 with
    seconds := 1483228799
    nanos := 1999999999
    first_le := by decide
    le_last := by decide
    nanos_lt := by decide }

/-- The first moment of 2017, which comes right after it. -/
def startOf2017 : Instant :=
  { Instant.start2026 with
    seconds := 1483228800
    first_le := by decide
    le_last := by decide }

/-- A leap second at the end of a minute is kept to the microsecond and comes before the second
behind it. -/
theorem time_columns_keep_order_at_leap_second :
    readTime lastLeapSecond.storedText = .ok lastLeapSecond.toMicros ∧
      bytesOf lastLeapSecond.storedText ≤ bytesOf startOf2017.storedText ∧
      ¬ bytesOf startOf2017.storedText ≤ bytesOf lastLeapSecond.storedText := by
  have hleap : lastLeapSecond.HasFourDigitYear := by decide
  have hnext : startOf2017.HasFourDigitYear := by decide
  obtain ⟨-, hread, horder, hkept⟩ :=
    time_columns_keep_order lastLeapSecond startOf2017 hleap hnext
  obtain ⟨-, -, hback, -⟩ := time_columns_keep_order startOf2017 lastLeapSecond hnext hleap
  obtain ⟨hkept, hkept'⟩ := hkept (by decide) (by decide)
  rw [hkept, hkept'] at horder hback
  refine ⟨hread.trans (congrArg Except.ok hkept), horder.2 (.inl (by decide)), fun h => ?_⟩
  rcases hback.1 h with hlt | ⟨heq, -⟩
  · exact absurd hlt (by decide)
  · exact absurd heq (by decide)

/-- A tenth of a second into the sixth second of 2026. -/
def afterLeap : Instant :=
  { Instant.start2026 with
    seconds := 1767225605
    nanos := 100000000
    first_le := by decide
    le_last := by decide
    nanos_lt := by decide }

/-- A leap second in the middle of a minute is read back as another instant, and comes before one whose
text it stands behind. -/
theorem not_time_columns_keep_order_in_mid_minute :
    Instant.midMinuteLeap.HasFourDigitYear ∧ afterLeap.HasFourDigitYear ∧
      readTime Instant.midMinuteLeap.storedText ≠ .ok Instant.midMinuteLeap.toMicros ∧
      Instant.midMinuteLeap.toMicros.NotAfter afterLeap.toMicros ∧
      ¬ bytesOf Instant.midMinuteLeap.storedText ≤ bytesOf afterLeap.storedText := by
  have hleap : Instant.midMinuteLeap.HasFourDigitYear := by decide
  have hafter : afterLeap.HasFourDigitYear := by decide
  refine ⟨hleap, hafter, ?_, .inl (by decide), ?_⟩
  · rw [readTime_storedText hleap]
    exact fun h => absurd (Except.ok.inj h) (by decide)
  · rw [Instant.bytesOf_storedText_le hleap hafter]
    rintro (hlt | ⟨-, hle⟩)
    · exact absurd hlt (by decide)
    · exact absurd hle (by decide)

end ChatLedger.Store
