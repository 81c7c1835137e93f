import ChatLedger.Proofs.Reading.Times

/-!
# The order of stored times

Times are compared by their texts where rows are sorted. For the years 0 to 9999 this is the order
of the instants themselves, at the microseconds that the store keeps.

1. `padded_lt`: numbers written with the same number of digits compare as their texts.
2. `Date.before_ofDays`: a later day has a later date.
3. `Instant.storedText_lt`: of two kept times, the text of one comes first where the time does.
-/

namespace ChatLedger.Time

/-! ## Texts of one length -/

/-- What differs at the front decides. -/
theorem append_lt_append {xs ys : List Char} (hlen : xs.length = ys.length) (h : xs < ys)
    (us vs : List Char) : xs ++ us < ys ++ vs := by
  induction xs generalizing ys with
  | nil =>
    cases ys with
    | nil => exact absurd h (List.lt_irrefl _)
    | cons y ys => cases hlen
  | cons x xs ih =>
    cases ys with
    | nil => cases hlen
    | cons y ys =>
      rw [List.cons_append, List.cons_append]
      rcases List.cons_lt_cons_iff.1 h with hfirst | ⟨rfl, hlater⟩
      · exact List.cons_lt_cons_iff.2 (.inl hfirst)
      · exact List.cons_lt_cons_iff.2 (.inr ⟨rfl, ih (Nat.succ.inj hlen) hlater⟩)

theorem toNat_of_isDigit {c : Char} (h : c.isDigit = true) : 48 ≤ c.toNat ∧ c.toNat ≤ 57 := by
  unfold Char.isDigit at h
  rw [Bool.and_eq_true, decide_eq_true_eq, decide_eq_true_eq] at h
  exact ⟨h.1, h.2⟩

/-- Digits behind a number do not take it beyond the next one. -/
theorem ofDigitChars_bounds {cs : List Char} (h : ∀ c ∈ cs, c.isDigit = true) (n : Nat) :
    n * 10 ^ cs.length ≤ Nat.ofDigitChars 10 cs n ∧
      Nat.ofDigitChars 10 cs n < (n + 1) * 10 ^ cs.length := by
  induction cs generalizing n with
  | nil => simp
  | cons c cs ih =>
    obtain ⟨hlow, hhigh⟩ := toNat_of_isDigit (h c List.mem_cons_self)
    have hzero : '0'.toNat = 48 := rfl
    obtain ⟨hle, hlt⟩ := ih (fun c hc => h c (List.mem_cons_of_mem _ hc))
      (10 * n + (c.toNat - '0'.toNat))
    rw [Nat.ofDigitChars_cons, List.length_cons, Nat.pow_succ']
    refine ⟨Nat.le_trans ?_ hle, Nat.lt_of_lt_of_le hlt ?_⟩
    · rw [← Nat.mul_assoc]
      exact Nat.mul_le_mul_right _ (by omega)
    · rw [← Nat.mul_assoc]
      exact Nat.mul_le_mul_right _ (by omega)

/-- Of two texts of digits, the first one in order writes the smaller number. -/
theorem ofDigitChars_lt {xs ys : List Char} (hx : ∀ c ∈ xs, c.isDigit = true)
    (hy : ∀ c ∈ ys, c.isDigit = true) (hlen : xs.length = ys.length) (h : xs < ys) (n : Nat) :
    Nat.ofDigitChars 10 xs n < Nat.ofDigitChars 10 ys n := by
  induction xs generalizing ys n with
  | nil =>
    cases ys with
    | nil => exact absurd h (List.lt_irrefl _)
    | cons y ys => cases hlen
  | cons x xs ih =>
    cases ys with
    | nil => cases hlen
    | cons y ys =>
      have hrest : xs.length = ys.length := Nat.succ.inj hlen
      have hxs (c : Char) (hc : c ∈ xs) : c.isDigit = true := hx c (List.mem_cons_of_mem _ hc)
      have hys (c : Char) (hc : c ∈ ys) : c.isDigit = true := hy c (List.mem_cons_of_mem _ hc)
      rw [Nat.ofDigitChars_cons, Nat.ofDigitChars_cons]
      rcases List.cons_lt_cons_iff.1 h with hfirst | ⟨rfl, hlater⟩
      · obtain ⟨hlow, -⟩ := toNat_of_isDigit (hx x List.mem_cons_self)
        have hnext : x.toNat < y.toNat := hfirst
        have hzero : '0'.toNat = 48 := rfl
        have hbelow := (ofDigitChars_bounds hxs (10 * n + (x.toNat - '0'.toNat))).2
        have habove := (ofDigitChars_bounds hys (10 * n + (y.toNat - '0'.toNat))).1
        refine Nat.lt_of_lt_of_le hbelow (Nat.le_trans ?_ habove)
        rw [hrest]
        exact Nat.mul_le_mul_right _ (by omega)
      · exact ih hxs hys hrest hlater _

/-- **Numbers of one width** compare as their texts. -/
theorem padded_lt {width m n : Nat} (hwidth : 0 < width) (hn : n < 10 ^ width) (h : m < n) :
    padded width m < padded width n := by
  have hlen : (padded width m).length = (padded width n).length := by
    rw [length_padded hwidth (Nat.lt_trans h hn), length_padded hwidth hn]
  by_cases hlt : padded width m < padded width n
  · exact hlt
  by_cases hgt : padded width n < padded width m
  · have hback := ofDigitChars_lt (fun _ => isDigit_of_mem_padded) (fun _ => isDigit_of_mem_padded)
      hlen.symm hgt 0
    rw [← digitsValue_eq, ← digitsValue_eq, digitsValue_padded, digitsValue_padded] at hback
    exact absurd h (Nat.lt_asymm hback)
  · have hsame := congrArg digitsValue (List.le_antisymm (List.not_lt.1 hgt) (List.not_lt.1 hlt))
    rw [digitsValue_padded, digitsValue_padded] at hsame
    exact absurd hsame (Nat.ne_of_lt h)

/-- Fields before a separator compare as their numbers, and where these are the same as what comes
behind. -/
theorem field_lt {width m n : Nat} {separator : Char} {us vs : List Char} (hwidth : 0 < width)
    (hn : n < 10 ^ width) (h : m < n ∨ m = n ∧ us < vs) :
    padded width m ++ separator :: us < padded width n ++ separator :: vs := by
  rcases h with hlt | ⟨rfl, hrest⟩
  · refine append_lt_append ?_ (padded_lt hwidth hn hlt) _ _
    rw [length_padded hwidth (Nat.lt_trans hlt hn), length_padded hwidth hn]
  · exact List.append_left_lt (List.cons_lt_cons_iff.2 (.inr ⟨rfl, hrest⟩))

/-! ## Dates -/

/-- The first date comes before the second. -/
def Date.Before (a b : Date) : Prop :=
  a.year < b.year ∨
    a.year = b.year ∧ (a.month < b.month ∨ a.month = b.month ∧ a.day < b.day)

/-- Days of one year, from March on. -/
theorem Date.before_inYear {year d e : Int} (hd : 0 ≤ d) (he : e ≤ 365) (h : d < e) :
    (Date.inYear year d).Before (Date.inYear year e) := by
  have hmonths : (5 * d + 2) / 153 ≤ (5 * e + 2) / 153 ∧ (5 * e + 2) / 153 ≤ 11 := by omega
  have hfirst : 0 ≤ (5 * d + 2) / 153 := by omega
  have hday : 0 ≤ d - (153 * ((5 * d + 2) / 153) + 2) / 5 := by omega
  generalize hm : (5 * d + 2) / 153 = m at *
  generalize hn : (5 * e + 2) / 153 = n at *
  unfold Date.inYear Date.Before
  dsimp only
  rw [hm, hn]
  rcases Int.lt_or_eq_of_le hmonths.1 with hlt | rfl
  · by_cases hlate : n < 10
    · rw [if_pos (by omega), if_pos hlate]
      dsimp only
      omega
    · rw [if_neg hlate]
      split <;> dsimp only <;> omega
  · split <;> dsimp only <;> omega

/-- Days of different years, from March on. -/
theorem Date.before_inYear_of_lt {y z d e : Int} (hd : 0 ≤ d ∧ d ≤ 365) (he : 0 ≤ e ∧ e ≤ 365)
    (h : y < z) : (Date.inYear y d).Before (Date.inYear z e) := by
  have hm : 0 ≤ (5 * d + 2) / 153 ∧ (5 * d + 2) / 153 ≤ 11 := by omega
  have hn : 0 ≤ (5 * e + 2) / 153 ∧ (5 * e + 2) / 153 ≤ 11 := by omega
  generalize (5 * d + 2) / 153 = m at *
  generalize (5 * e + 2) / 153 = n at *
  unfold Date.inYear Date.Before
  dsimp only
  split <;> split <;> dsimp only <;> omega

/-- Days are counted through the years. -/
theorem Parts.year_le {m n c₁ q₁ s₁ y₁ d₁ c₂ q₂ s₂ y₂ d₂ : Int} (p₁ : Parts m c₁ q₁ s₁ y₁ d₁)
    (p₂ : Parts n c₂ q₂ s₂ y₂ d₂) (h : m < n) :
    c₁ * 400 + q₁ * 100 + s₁ * 4 + y₁ < c₂ * 400 + q₂ * 100 + s₂ * 4 + y₂ ∨
      c₁ * 400 + q₁ * 100 + s₁ * 4 + y₁ = c₂ * 400 + q₂ * 100 + s₂ * 4 + y₂ ∧ d₁ < d₂ := by
  obtain ⟨hm, hq₁, hs₁, hy₁, hd₁, hleap₁⟩ := p₁
  obtain ⟨hn, hq₂, hs₂, hy₂, hd₂, hleap₂⟩ := p₂
  omega

/-- **A later day has a later date.** -/
theorem Date.before_ofDays {d e : Int} (h : d < e) : (Date.ofDays d).Before (Date.ofDays e) := by
  obtain ⟨c₁, q₁, s₁, y₁, d₁, p₁, hd⟩ := Date.ofDays_eq d
  obtain ⟨c₂, q₂, s₂, y₂, d₂, p₂, he⟩ := Date.ofDays_eq e
  rw [hd, he]
  rcases p₁.year_le p₂ (by omega) with hyear | ⟨hyear, hday⟩
  · exact before_inYear_of_lt p₁.day_range p₂.day_range hyear
  · rw [hyear]
    exact before_inYear p₁.day_range.1 p₂.day_range.2 hday
/-! ## Instants -/

/-- The first instant comes before the second. -/
def Instant.Before (t u : Instant) : Prop :=
  t.seconds < u.seconds ∨ t.seconds = u.seconds ∧ t.nanos < u.nanos

/-- Of two instants one comes first, unless they are the same. -/
theorem Instant.before_cases (t u : Instant) : t.Before u ∨ t = u ∨ u.Before t := by
  by_cases hsame : t.seconds = u.seconds ∧ t.nanos = u.nanos
  · refine .inr (.inl ?_)
    cases t
    cases u
    obtain ⟨rfl, rfl⟩ := hsame
    rfl
  · unfold Before
    omega

/-- What a clock shows differs in one field, to the microsecond, and all fields before it are the
same. -/
def ClockReading.Before (a b : ClockReading) : Prop :=
  a.date.year < b.date.year ∨ a.date.year = b.date.year ∧
    (a.date.month < b.date.month ∨ a.date.month = b.date.month ∧
      (a.date.day < b.date.day ∨ a.date.day = b.date.day ∧
        (a.hour < b.hour ∨ a.hour = b.hour ∧ (a.minute < b.minute ∨ a.minute = b.minute ∧
          (a.second < b.second ∨ a.second = b.second ∧ a.nanos / 1000 < b.nanos / 1000)))))

/-- A clock shows later times later. A leap second comes after the second that it belongs to. -/
theorem Instant.Before.reading {t u : Instant} (h : t.Before u) (ht : t.IsKept) (hu : u.IsKept) :
    t.reading.Before u.reading := by
  have hle : t.seconds ≤ u.seconds := by
    unfold Before at h
    omega
  have hleap : second ≤ t.nanos → t.seconds % 60 = 59 := ht.shown
  have hlimit := u.nanos_lt
  have hmicros : t.nanos / 1000 * 1000 = t.nanos := congrArg Instant.nanos ht.micros
  have hmicros' : u.nanos / 1000 * 1000 = u.nanos := congrArg Instant.nanos hu.micros
  unfold Time.second at hleap hlimit
  unfold ClockReading.Before Instant.reading
  unfold Time.second secondsPerDay
  dsimp only
  rcases Int.lt_or_eq_of_le (by omega : t.seconds / 86400 ≤ u.seconds / 86400) with hday | hday
  · have hdate := Date.before_ofDays hday
    unfold Date.Before at hdate
    omega
  · rw [hday]
    unfold Before at h
    omega

/-- The texts of readings in the years 0 to 9999 are in their order. -/
theorem Instant.storedText_lt_of_reading {t u : Instant} (ht : t.HasFourDigitYear)
    (hu : u.HasFourDigitYear) (h : t.reading.Before u.reading) : t.storedText < u.storedText := by
  obtain ⟨hvalid, hhour, hminute, hsecond, hnanos⟩ := u.reading_bounds
  obtain ⟨hmonth, hday⟩ := Date.two_digits hvalid
  have hmicros : u.reading.nanos / 1000 < 10 ^ 6 := by
    unfold Time.second at hnanos
    omega
  obtain ⟨year, hyear⟩ := Int.eq_ofNat_of_zero_le ht.1
  obtain ⟨year', hyear'⟩ := Int.eq_ofNat_of_zero_le hu.1
  have hle : year < 10 ^ 4 := by
    have hle := ht.2
    omega
  have hle' : year' < 10 ^ 4 := by
    have hle := hu.2
    omega
  show t.storedText.toList < u.storedText.toList
  rw [t.toList_storedText hyear hle, u.toList_storedText hyear' hle']
  rcases h with hfirst | ⟨hsame, h⟩
  · exact field_lt (by decide) hle' (.inl (by omega))
  refine field_lt (by decide) hle' (.inr ⟨by omega, ?_⟩)
  refine field_lt (by decide) hmonth (h.imp_right fun ⟨hsame, h⟩ => ⟨hsame, ?_⟩)
  refine field_lt (by decide) hday (h.imp_right fun ⟨hsame, h⟩ => ⟨hsame, ?_⟩)
  refine field_lt (by decide) (by omega) (h.imp_right fun ⟨hsame, h⟩ => ⟨hsame, ?_⟩)
  refine field_lt (by decide) (by omega) (h.imp_right fun ⟨hsame, h⟩ => ⟨hsame, ?_⟩)
  refine field_lt (by decide) (by omega) (h.imp_right fun ⟨hsame, h⟩ => ⟨hsame, ?_⟩)
  refine append_lt_append ?_ (padded_lt (by decide) hmicros h) _ _
  rw [length_padded (by decide) (Nat.lt_trans h hmicros), length_padded (by decide) hmicros]

/-- **The order of stored texts** is the order of the instants that they keep. -/
theorem Instant.storedText_lt {t u : Instant} (ht : t.IsKept) (hu : u.IsKept) :
    t.storedText < u.storedText ↔ t.Before u := by
  have text {t u : Instant} (ht : t.IsKept) (hu : u.IsKept) (h : t.Before u) :
      t.storedText < u.storedText :=
    storedText_lt_of_reading ht.year hu.year (h.reading ht hu)
  refine ⟨fun h => ?_, text ht hu⟩
  rcases t.before_cases u with hbefore | rfl | hafter
  · exact hbefore
  · exact absurd h (String.lt_irrefl _)
  · exact absurd h (String.lt_asymm (text hu ht hafter))

end ChatLedger.Time
