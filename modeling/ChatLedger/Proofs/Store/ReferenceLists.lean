import ChatLedger.Proofs.Paging
import ChatLedger.Proofs.Reading.Order
import ChatLedger.Proofs.Store.Alone
import ChatLedger.Proofs.Store.Legible
import Mathlib.Data.String.Basic

/-!
# Reference lists

What a list of records is a page of.

1. `Sooner` and `DatedSooner` are the orders of records by their times, with row numbers at the end.
   `sooner_of_notAfter`: rows that are sorted by the texts of their times are in this order.
2. A `ReferenceList` has an entry for every row that is shown and for no other, with the record that
   is read from it, in such an order. `ReferenceList.unique`: there is only one.
3. `Slices`: every page that an operation answers is a slice of one list of records, its total is the
   length of that list, and all pages one behind the other are the list.
-/

namespace ChatLedger.Store

open Time

/-! ## Orders -/

/-- The first time comes before the second, or they are the same and the first row number is the
lower one. -/
def Sooner (a b : Instant × Nat) : Prop := a.1.Before b.1 ∨ a.1 = b.1 ∧ a.2 < b.2

/-- The same for records with a date that may be missing: those without a date come first, and
records of one date are in the order of what comes behind the date. -/
def DatedSooner (a b : Option Instant × (Instant × Nat)) : Prop :=
  match a.1, b.1 with
  | none, none => Sooner a.2 b.2
  | none, some _ => True
  | some _, none => False
  | some s, some t => s.Before t ∨ s = t ∧ Sooner a.2 b.2

/-- Where times decide before anything else, no two records come before each other. -/
theorem before_or_asymm {s t : Instant} {P Q : Prop} (hPQ : P → ¬ Q)
    (h : s.Before t ∨ s = t ∧ P) : ¬ (t.Before s ∨ t = s ∧ Q) := by
  unfold Instant.Before at *
  rcases h with h | ⟨rfl, hP⟩
  · rintro (h' | ⟨rfl, -⟩) <;> omega
  · rintro (h' | ⟨-, hQ⟩)
    · omega
    · exact hPQ hP hQ

theorem Sooner.asymm {a b : Instant × Nat} (h : Sooner a b) : ¬ Sooner b a :=
  before_or_asymm Nat.lt_asymm h

theorem DatedSooner.asymm : ∀ {a b : Option Instant × (Instant × Nat)},
    DatedSooner a b → ¬ DatedSooner b a
  | (none, _), (none, _), h => Sooner.asymm h
  | (none, _), (some _, _), _ => fun h' => h'
  | (some _, _), (none, _), h => h.elim
  | (some _, _), (some _, _), h => before_or_asymm Sooner.asymm h

/-- The entry with the later time comes first. -/
def Newest {β : Type} (key : β → Instant × Nat) (a b : β) : Prop := Sooner (key b) (key a)

/-- The entry with the earlier time comes first. -/
def Oldest {β : Type} (key : β → Instant × Nat) (a b : β) : Prop := Sooner (key a) (key b)

/-- The entry with the later date comes first, and those without a date last. -/
def Latest {β : Type} (key : β → Option Instant × (Instant × Nat)) (a b : β) : Prop :=
  DatedSooner (key b) (key a)

theorem notAfter_iff {a b : String × Nat} :
    notAfter a b = true ↔ a.1 < b.1 ∨ a.1 = b.1 ∧ a.2 ≤ b.2 := by
  unfold notAfter
  rw [Bool.or_eq_true, Bool.and_eq_true, decide_eq_true_eq, beq_iff_eq, decide_eq_true_eq]

theorem notAfter_trans (a b c : String × Nat) (hab : notAfter a b = true)
    (hbc : notAfter b c = true) : notAfter a c = true := by
  rw [notAfter_iff] at *
  rcases hab with hab | ⟨hab, hrow⟩
  · rcases hbc with hbc | ⟨hbc, -⟩
    · exact .inl (String.lt_trans hab hbc)
    · exact .inl (hbc ▸ hab)
  · rcases hbc with hbc | ⟨hbc, hrow'⟩
    · exact .inl (hab ▸ hbc)
    · exact .inr ⟨hab.trans hbc, Nat.le_trans hrow hrow'⟩

theorem notAfter_total (a b : String × Nat) : (notAfter a b || notAfter b a) = true := by
  rw [Bool.or_eq_true, notAfter_iff, notAfter_iff]
  rcases lt_trichotomy a.1 b.1 with hlt | heq | hgt
  · exact .inl (.inl hlt)
  · rcases Nat.le_total a.2 b.2 with hle | hle
    · exact .inl (.inr ⟨heq, hle⟩)
    · exact .inr (.inr ⟨heq.symm, hle⟩)
  · exact .inr (.inl hgt)

theorem datedNotAfter_some {s t : String} {a b : String × Nat} :
    datedNotAfter (some s, a) (some t, b) = true ↔ s < t ∨ s = t ∧ notAfter a b = true := by
  unfold datedNotAfter
  rw [Bool.or_eq_true, Bool.and_eq_true, decide_eq_true_eq, beq_iff_eq]

theorem datedNotAfter_trans : ∀ a b c : Option String × (String × Nat),
    datedNotAfter a b = true → datedNotAfter b c = true → datedNotAfter a c = true
  | (none, a), (none, b), (none, c), hab, hbc => notAfter_trans a b c hab hbc
  | (none, _), _, (some _, _), _, _ => rfl
  | (some _, _), (none, _), _, hab, _ => by cases hab
  | _, (some _, _), (none, _), _, hbc => by cases hbc
  | (some s, a), (some t, b), (some u, c), hab, hbc => by
    rw [datedNotAfter_some] at *
    rcases hab with hab | ⟨rfl, hrest⟩
    · rcases hbc with hbc | ⟨rfl, -⟩
      · exact .inl (String.lt_trans hab hbc)
      · exact .inl hab
    · exact hbc.imp_right fun ⟨heq, hrest'⟩ => ⟨heq, notAfter_trans a b c hrest hrest'⟩

theorem datedNotAfter_total : ∀ a b : Option String × (String × Nat),
    (datedNotAfter a b || datedNotAfter b a) = true
  | (none, a), (none, b) => notAfter_total a b
  | (none, _), (some _, _) => rfl
  | (some _, _), (none, _) => rfl
  | (some s, a), (some t, b) => by
    rw [Bool.or_eq_true, datedNotAfter_some, datedNotAfter_some]
    rcases lt_trichotomy s t with hlt | heq | hgt
    · exact .inl (.inl hlt)
    · rcases Bool.or_eq_true _ _ ▸ notAfter_total a b with hle | hle
      · exact .inl (.inr ⟨heq, hle⟩)
      · exact .inr (.inr ⟨heq.symm, hle⟩)
    · exact .inr (.inl hgt)

/-- Times that columns hold are in the order of the texts. -/
theorem Holds.lt_iff {s t : String} {a b : Instant} (ha : Holds s a) (hb : Holds t b) :
    s < t ↔ a.Before b := by
  rw [← ha.text, ← hb.text]
  exact Instant.storedText_lt ha.kept hb.kept

theorem Holds.inj {s : String} {a b : Instant} (ha : Holds s a) (hb : Holds s b) : a = b := by
  have hread := ha.read
  rw [hb.read] at hread
  exact (Except.ok.inj hread).symm

/-- **Rows that are sorted by texts** are sorted by the times that these hold. -/
theorem sooner_of_notAfter {a b : String × Nat} {t u : Instant} (ha : Holds a.1 t)
    (hb : Holds b.1 u) (h : notAfter a b = true) (hne : a.2 ≠ b.2) :
    Sooner (t, a.2) (u, b.2) := by
  rcases notAfter_iff.1 h with hlt | ⟨heq, hle⟩
  · exact .inl ((ha.lt_iff hb).1 hlt)
  · rw [← heq] at hb
    exact .inr ⟨ha.inj hb, Nat.lt_of_le_of_ne hle hne⟩

theorem datedSooner_of_datedNotAfter : ∀ {a b : Option String × (String × Nat)}
    {t? u? : Option Instant} {t u : Instant}, MayHold a.1 t? → MayHold b.1 u? →
    Holds a.2.1 t → Holds b.2.1 u → datedNotAfter a b = true → a.2.2 ≠ b.2.2 →
    DatedSooner (t?, (t, a.2.2)) (u?, (u, b.2.2))
  | (none, _), (none, _), none, none, _, _, _, _, ha, hb, h, hne =>
    sooner_of_notAfter ha hb h hne
  | (none, _), (some _, _), none, some _, _, _, _, _, _, _, _, _ => trivial
  | (some s, a), (some s', b), some t, some u, _, _, hs, hs', ha, hb, h, hne => by
    have hs : Holds s t := ⟨hs.kept t rfl, Option.some.inj hs.text⟩
    have hs' : Holds s' u := ⟨hs'.kept u rfl, Option.some.inj hs'.text⟩
    rcases datedNotAfter_some.1 h with hlt | ⟨rfl, hrest⟩
    · exact .inl ((hs.lt_iff hs').1 hlt)
    · exact .inr ⟨hs.inj hs', sooner_of_notAfter ha hb hrest hne⟩
  | (some _, _), (none, _), _, _, _, _, _, _, _, _, h, _ => by cases h
  | (none, _), _, some _, _, _, _, h, _, _, _, _, _ => by cases h.text
  | (some _, _), _, none, _, _, _, h, _, _, _, _, _ => by cases h.text
  | _, (none, _), _, some _, _, _, _, h, _, _, _, _ => by cases h.text
  | _, (some _, _), _, none, _, _, _, h, _, _, _, _ => by cases h.text

/-! ## Sorted rows -/

section Sorted

variable {Row : Type} {rows : List Row}

/-- A sorted list whose rows all differ in what the order ends in. -/
theorem pairwise_mergeSort_ne {le : Row → Row → Bool} {number : Row → Nat}
    (trans : ∀ a b c, le a b = true → le b c = true → le a c = true)
    (total : ∀ a b, (le a b || le b a) = true) (apart : (rows.map number).Nodup) :
    (rows.mergeSort le).Pairwise fun a b => le a b = true ∧ number a ≠ number b := by
  have hperm := (List.mergeSort_perm rows le).map number
  have distinct : (rows.mergeSort le).Pairwise fun a b => number a ≠ number b :=
    List.pairwise_map.1 (hperm.nodup_iff.2 apart)
  exact (List.pairwise_mergeSort trans total rows).and distinct

end Sorted

/-! ## Reference lists -/

section ReferenceList

variable {Row α : Type} {Shown : Row → Prop} {read : Row → Except StoreError α}
  {Precedes : Row × α → Row × α → Prop} {entries : List (Row × α)}

/-- Every row that is shown, and no other, with the record that is read from it, in this order. No
two entries come before each other in it. -/
structure ReferenceList (Shown : Row → Prop) (read : Row → Except StoreError α)
    (Precedes : Row × α → Row × α → Prop) (entries : List (Row × α)) : Prop where
  shown : ∀ row, row ∈ entries.map Prod.fst ↔ Shown row
  reads : ∀ e ∈ entries, read e.1 = .ok e.2
  sorted : entries.Pairwise Precedes
  strict : ∀ a b, Precedes a b → ¬ Precedes b a

theorem ReferenceList.mem_iff (h : ReferenceList Shown read Precedes entries) {e : Row × α} :
    e ∈ entries ↔ Shown e.1 ∧ read e.1 = .ok e.2 := by
  constructor
  · intro he
    exact ⟨(h.shown e.1).1 (List.mem_map_of_mem he), h.reads e he⟩
  · rintro ⟨hshown, hread⟩
    obtain ⟨e', he', hrow⟩ := List.mem_map.1 ((h.shown e.1).2 hshown)
    have hread' := h.reads e' he'
    rw [hrow, hread] at hread'
    rwa [← Prod.ext hrow (Except.ok.inj hread').symm]

theorem ReferenceList.mem_records (h : ReferenceList Shown read Precedes entries) {a : α} :
    a ∈ entries.map Prod.snd ↔ ∃ row, Shown row ∧ read row = .ok a := by
  rw [List.mem_map]
  constructor
  · rintro ⟨e, he, rfl⟩
    exact ⟨e.1, h.mem_iff.1 he⟩
  · rintro ⟨row, hrow⟩
    exact ⟨(row, a), h.mem_iff.2 hrow, rfl⟩

/-- **There is only one reference list**, since its order is strict. -/
theorem ReferenceList.unique {entries' : List (Row × α)}
    (h : ReferenceList Shown read Precedes entries)
    (h' : ReferenceList Shown read Precedes entries') : entries = entries' := by
  have nodup {l : List (Row × α)} (sorted : l.Pairwise Precedes) : l.Nodup := by
    refine sorted.imp (S := (· ≠ ·)) ?_
    rintro a b hab rfl
    exact h.strict a a hab hab
  have hperm : entries.Perm entries' :=
    (List.perm_ext_iff_of_nodup (nodup h.sorted) (nodup h'.sorted)).2 fun e =>
      h.mem_iff.trans h'.mem_iff.symm
  refine hperm.eq_of_pairwise (fun a b _ _ hab hba => ?_) h.sorted h'.sorted
  exact absurd hba (h.strict a b hab)

/-- **Of a part of the rows, the part of the list** is the reference list. -/
theorem ReferenceList.filter (h : ReferenceList Shown read Precedes entries)
    {Meets : Row → Prop} {kept : α → Bool}
    (agree : ∀ row a, Shown row → read row = .ok a → (kept a = true ↔ Meets row)) :
    ReferenceList (fun row => Shown row ∧ Meets row) read Precedes
      (entries.filter (kept ·.2)) := by
  refine ⟨fun row => ?_, fun e he => h.reads e (List.mem_filter.1 he).1, h.sorted.filter _, h.strict⟩
  rw [List.mem_map]
  constructor
  · rintro ⟨e, he, rfl⟩
    obtain ⟨hmem, hkept⟩ := List.mem_filter.1 he
    have hshown := (h.mem_iff.1 hmem).1
    exact ⟨hshown, (agree e.1 e.2 hshown (h.reads e hmem)).1 hkept⟩
  · rintro ⟨hshown, hmeets⟩
    obtain ⟨e, hmem, rfl⟩ := List.mem_map.1 ((h.shown row).2 hshown)
    have hkept := (agree e.1 e.2 hshown (h.reads e hmem)).2 hmeets
    exact ⟨e, List.mem_filter.2 ⟨hmem, hkept⟩, rfl⟩

/-- Rows that are read one by one. -/
theorem exists_entries {Fits : Row → α → Prop} {rows : List Row}
    (reads : ∀ r ∈ rows, ∃ a, read r = .ok a ∧ Fits r a) :
    ∃ entries : List (Row × α), entries.map Prod.fst = rows ∧
      ∀ e ∈ entries, read e.1 = .ok e.2 ∧ Fits e.1 e.2 := by
  induction rows with
  | nil => exact ⟨[], rfl, by simp⟩
  | cons r rows ih =>
    obtain ⟨a, ha⟩ := reads r List.mem_cons_self
    obtain ⟨entries, hrows, hreads⟩ := ih fun r hr => reads r (List.mem_cons_of_mem _ hr)
    exact ⟨(r, a) :: entries, by rw [List.map_cons, hrows], List.forall_mem_cons.2 ⟨ha, hreads⟩⟩

/-- Rows that are all read make a reference list once they are sorted. -/
theorem exists_referenceList {rows : List Row} {le : Row → Row → Bool} {number : Row → Nat}
    {Fits : Row → α → Prop}
    (trans : ∀ a b c, le a b = true → le b c = true → le a c = true)
    (total : ∀ a b, (le a b || le b a) = true) (apart : (rows.map number).Nodup)
    (shown : ∀ r, r ∈ rows ↔ Shown r) (reads : ∀ r ∈ rows, ∃ a, read r = .ok a ∧ Fits r a)
    (strict : ∀ a b, Precedes a b → ¬ Precedes b a)
    (precedes : ∀ e e', Fits e.1 e.2 → Fits e'.1 e'.2 → le e.1 e'.1 = true →
      number e.1 ≠ number e'.1 → Precedes e e') :
    ∃ entries, entries.map Prod.fst = rows.mergeSort le ∧
      ReferenceList Shown read Precedes entries := by
  have sorted := pairwise_mergeSort_ne trans total apart
  obtain ⟨entries, hrows, hreads⟩ : ∃ entries : List (Row × α),
      entries.map Prod.fst = rows.mergeSort le ∧ ∀ e ∈ entries, read e.1 = .ok e.2 ∧ Fits e.1 e.2 :=
    exists_entries fun r hr => reads r (List.mem_mergeSort.1 hr)
  refine ⟨entries, hrows, fun r => ?_, fun e he => (hreads e he).1, ?_, strict⟩
  · rw [hrows, List.mem_mergeSort, shown r]
  · rw [← hrows, List.pairwise_map] at sorted
    exact sorted.imp_of_mem fun he he' ⟨hle, hne⟩ =>
      precedes _ _ (hreads _ he).2 (hreads _ he').2 hle hne

section Times

variable {rows : List Row} {text : Row → String} {number : Row → Nat} {time : α → Instant}
  (apart : (rows.map number).Nodup) (shown : ∀ r, r ∈ rows ↔ Shown r)

include apart shown

/-- Rows from the latest to the earliest, with their records. -/
theorem exists_newestFirst (reads : ∀ r ∈ rows, ∃ a, read r = .ok a ∧ Holds (text r) (time a)) :
    ∃ entries, entries.map Prod.fst = newestFirst (fun r => (text r, number r)) rows ∧
      ReferenceList Shown read (Newest fun e => (time e.2, number e.1)) entries :=
  exists_referenceList (fun _ _ _ hab hbc => notAfter_trans _ _ _ hbc hab)
    (fun a b => notAfter_total (text b, number b) (text a, number a)) apart shown reads
    (fun _ _ => Sooner.asymm)
    fun _ _ he he' hle hne => sooner_of_notAfter he' he hle hne.symm

/-- Rows from the earliest to the latest, with their records. -/
theorem exists_oldestFirst (reads : ∀ r ∈ rows, ∃ a, read r = .ok a ∧ Holds (text r) (time a)) :
    ∃ entries, entries.map Prod.fst = oldestFirst (fun r => (text r, number r)) rows ∧
      ReferenceList Shown read (Oldest fun e => (time e.2, number e.1)) entries :=
  exists_referenceList (fun _ _ _ => notAfter_trans _ _ _)
    (fun a b => notAfter_total (text a, number a) (text b, number b)) apart shown reads
    (fun _ _ => Sooner.asymm)
    fun _ _ he he' hle hne => sooner_of_notAfter he he' hle hne

/-- Dated rows from the latest to the earliest and then those without a date, with their records. -/
theorem exists_latestFirst {text? : Row → Option String} {time? : α → Option Instant}
    (reads : ∀ r ∈ rows, ∃ a, read r = .ok a ∧ MayHold (text? r) (time? a) ∧
      Holds (text r) (time a)) :
    ∃ entries, entries.map Prod.fst = latestFirst (fun r => (text? r, text r, number r)) rows ∧
      ReferenceList Shown read (Latest fun e => (time? e.2, time e.2, number e.1)) entries :=
  exists_referenceList (fun _ _ _ hab hbc => datedNotAfter_trans _ _ _ hbc hab)
    (fun a b => datedNotAfter_total (text? b, text b, number b) (text? a, text a, number a))
    apart shown reads (fun _ _ => DatedSooner.asymm)
    fun _ _ he he' hle hne => datedSooner_of_datedNotAfter he'.1 he.1 he'.2 he.2 hle hne.symm

end Times

theorem mapM_of_reads (reads : ∀ e ∈ entries, read e.1 = .ok e.2) :
    (entries.map Prod.fst).mapM read = .ok (entries.map Prod.snd) := by
  induction entries with
  | nil => rfl
  | cons e entries ih =>
    obtain ⟨he, hrest⟩ := List.forall_mem_cons.1 reads
    rw [List.map_cons, List.mapM_cons, he, ih hrest]
    rfl

/-- A page of rows is read as a page of their records. -/
theorem ReferenceList.page_eq (h : ReferenceList Shown read Precedes entries)
    (request : PageRequest) :
    page (entries.map Prod.fst) request read =
      .ok (request.slice (entries.map Prod.snd), countOf (entries.map Prod.snd)) := by
  have hslice : ∀ e ∈ request.slice entries, read e.1 = .ok e.2 := fun e he =>
    h.reads e (List.mem_of_mem_drop (List.mem_of_mem_take he))
  have hmap {β : Type} (f : Row × α → β) :
      request.slice (entries.map f) = (request.slice entries).map f := by
    unfold PageRequest.slice
    rw [List.map_take, List.map_drop]
  unfold page countOf
  rw [hmap, hmap, mapM_of_reads hslice, List.length_map, List.length_map]
  rfl

end ReferenceList

end ChatLedger.Store

namespace ChatLedger

open Store Operation

variable {α : Type}

/-- The items of the page that the operation answers, or none. -/
def Operation.itemsOn (op : Operation (Page α)) (t : Tables) : List α :=
  match (op.on t).1 with
  | .ok page => page.items
  | .error _ => []

/-- The page of a list that answers a request. -/
def sliceOf (records : List α) (request : PageRequest) : Page α where
  items := (records.drop ((request.page.toNat - 1) * request.size.toNat)).take request.size.toNat
  total := UInt64.ofNat records.length
  page := request.page
  size := request.size

/-- As long as the last page has a number of 32 bits, its total is that of the list itself. -/
theorem totalPages_sliceOf {records : List α} {request : PageRequest} (h : request.Bounded)
    (hlength : records.length ≤ 4294967295 * request.size.toNat) :
    (sliceOf records request).totalPages.toNat = pagesFor records.length request.size.toNat := by
  have hsize := h.size_le
  have htotal : (UInt64.ofNat records.length).toNat = records.length :=
    UInt64.toNat_ofNat_of_lt' (by unfold UInt64.size; omega)
  rw [Page.totalPages_eq h.size]
  unfold sliceOf
  dsimp only
  rw [htotal]

/-- Every page that the operation answers is a slice of one list of records. -/
structure Slices (list : Option UInt32 → Option UInt32 → Operation (Page α))
    (settings : PagingSettings) (listing : Listing) (t : Tables) (records : List α) : Prop where
  /-- Pages are slices, whatever is asked for. -/
  answer : ∀ page size,
    (list page size).on t = (.ok (sliceOf records (settings.resolve listing page size)), t)
  /-- No page has more than a hundred items, and no number of items before a page is too large. -/
  bounded : ∀ page size, (settings.resolve listing page size).Bounded ∧
    0 ≤ (settings.resolve listing page size).offset ∧
    (settings.resolve listing page size).offset ≤ Bounds.highest
  /-- All pages one behind the other are the whole list, if the last one has a number of 32 bits. -/
  whole : ∀ page size answer, ((list page size).on t).1 = .ok answer →
    records.length ≤ 4294967295 * answer.size.toNat →
    ((List.range answer.totalPages.toNat).flatMap fun i =>
      (list (some (UInt32.ofNat (i + 1))) size).itemsOn t) = records

/-- There is one reference list of the rows that are shown, and the operation answers pages of
it. -/
def Listed {Row : Type} (list : Option UInt32 → Option UInt32 → Operation (Page α))
    (settings : PagingSettings) (listing : Listing) (t : Tables) (Shown : Row → Prop)
    (read : Row → Except StoreError α) (Precedes : Row × α → Row × α → Prop) : Prop :=
  ∃ entries, ReferenceList Shown read Precedes entries ∧
    (∀ other, ReferenceList Shown read Precedes other → other = entries) ∧
    Slices list settings listing t (entries.map Prod.snd)

/-- **Pages that are cut out of one list** are slices of it. -/
theorem Slices.of_on {list : Option UInt32 → Option UInt32 → Operation (Page α)}
    {settings : PagingSettings} {listing : Listing} {t : Tables} {records : List α}
    (h : ∀ page size, let request := settings.resolve listing page size
      (list page size).on t =
        (.ok (.ofItems (request.slice records, countOf records) request), t)) :
    Slices list settings listing t records := by
  have answer (page size : Option UInt32) : (list page size).on t =
      (.ok (sliceOf records (settings.resolve listing page size)), t) := by
    rw [h page size]
    unfold Page.ofItems sliceOf
    rw [(settings.bounded_resolve listing page size).slice_eq]
    rfl
  refine ⟨answer, fun page size => ?_, fun page size p hp hlength => ?_⟩
  · have hbounded := settings.bounded_resolve listing page size
    exact ⟨hbounded, hbounded.offset_le⟩
  · rw [answer page size] at hp
    obtain rfl := Except.ok.inj hp
    have hbounded := settings.bounded_resolve listing page size
    have hsize := hbounded.size
    have hlast := pagesFor_le hsize hlength
    have items (i : Nat)
        (hi : i < pagesFor records.length (settings.resolve listing page size).size.toNat) :
        (list (some (UInt32.ofNat (i + 1))) size).itemsOn t =
          (records.drop (i * (settings.resolve listing page size).size.toNat)).take
            (settings.resolve listing page size).size.toNat := by
      have hnumber : (UInt32.ofNat (i + 1)).toNat = i + 1 :=
        UInt32.toNat_ofNat_of_lt' (by unfold UInt32.size; omega)
      have hpage : (settings.resolve listing (some (UInt32.ofNat (i + 1))) size).page =
          UInt32.ofNat (i + 1) := PageRequest.resolve_page (by omega) ..
      -- the size does not depend on the page that is asked for
      have hsame : (settings.resolve listing (some (UInt32.ofNat (i + 1))) size).size =
          (settings.resolve listing page size).size := rfl
      unfold itemsOn
      rw [answer]
      unfold sliceOf
      dsimp only
      rw [hpage, hnumber, hsame, Nat.add_sub_cancel]
    rw [totalPages_sliceOf hbounded hlength,
      List.flatMap_congr fun i hi => items i (List.mem_range.1 hi), flatMap_slices]
    exact List.take_of_length_le (le_pagesFor_mul hsize)

/-- **An operation that reads pages of sorted rows** answers pages of their reference list. -/
theorem listed_of_page {Row : Type} {list : Option UInt32 → Option UInt32 → Operation (Page α)}
    {settings : PagingSettings} {listing : Listing} {t : Tables} {Shown : Row → Prop}
    {read : Row → Except StoreError α} {Precedes : Row × α → Row × α → Prop} {rows : List Row}
    (sorted : ∃ entries, entries.map Prod.fst = rows ∧ ReferenceList Shown read Precedes entries)
    (h : ∀ p size found, page rows (settings.resolve listing p size) read = .ok found →
      (list p size).on t = (.ok (.ofItems found (settings.resolve listing p size)), t)) :
    Listed list settings listing t Shown read Precedes := by
  obtain ⟨entries, rfl, reference⟩ := sorted
  exact ⟨entries, reference, fun _ other => other.unique reference,
    .of_on fun p size => h p size _ (reference.page_eq _)⟩

/-- **An operation that shows a part of the rows** answers pages of that part of the reference
list. -/
theorem Listed.slices_filter {Row : Type}
    {list : Option UInt32 → Option UInt32 → Operation (Page α)} {settings : PagingSettings}
    {listing : Listing} {t : Tables} {Shown Meets : Row → Prop} {read : Row → Except StoreError α}
    {Precedes : Row × α → Row × α → Prop} {entries : List (Row × α)}
    (part : Listed list settings listing t (fun row => Shown row ∧ Meets row) read Precedes)
    (whole : ReferenceList Shown read Precedes entries) {kept : α → Bool}
    (agree : ∀ row a, Shown row → read row = .ok a → (kept a = true ↔ Meets row)) :
    Slices list settings listing t ((entries.map Prod.snd).filter kept) := by
  obtain ⟨found, -, unique, slices⟩ := part
  have same : found.map Prod.snd = (entries.map Prod.snd).filter kept := by
    rw [← unique _ (whole.filter agree), List.filter_map]
    rfl
  rwa [← same]

end ChatLedger
