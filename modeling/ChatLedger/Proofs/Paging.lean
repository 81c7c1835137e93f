import ChatLedger.Bounds
import ChatLedger.Settings

/-!
# Pages of a list

1. `PageRequest.bounded_resolve`: whatever a caller asks for, and whatever the configuration says,
   the page has a number from one on and from one to a hundred items. The number of items before it
   is a small one (`PageRequest.Bounded.offset_le`).
2. `flatMap_slices`: the first pages of a list, one behind the other, are the beginning of the list.
3. `Page.totalPages_eq`: the total number of pages is the least one that holds all items.
-/

namespace ChatLedger

/-! ## Requests -/

namespace PageRequest

/-- The page has a number from one on, and from one to a hundred items. -/
structure Bounded (r : PageRequest) : Prop where
  page : 1 ≤ r.page.toNat
  size : 1 ≤ r.size.toNat
  size_le : r.size.toNat ≤ 100

theorem clamp_bounds {low high : UInt32} (h : low.toNat ≤ high.toNat) (n : UInt32) :
    low.toNat ≤ (clamp low high n).toNat ∧ (clamp low high n).toNat ≤ high.toNat := by
  unfold clamp
  split
  · exact ⟨Nat.le_refl _, h⟩
  · rename_i hlow
    rw [UInt32.lt_iff_toNat_lt] at hlow
    split
    · exact ⟨h, Nat.le_refl _⟩
    · rename_i hhigh
      rw [UInt32.lt_iff_toNat_lt] at hhigh
      omega

/-- What holds of all that is accepted and of the default holds of what a caller gets. -/
theorem getD_filter {P : UInt32 → Prop} {accepted : UInt32 → Bool} {default : UInt32}
    (asked : Option UInt32) (haccepted : ∀ n, accepted n = true → P n) (hdefault : P default) :
    P ((asked.filter accepted).getD default) := by
  cases h : asked.filter accepted with
  | none => exact hdefault
  | some n => exact haccepted n (Option.filter_eq_some_iff.1 h).2

/-- **Every request is bounded**, whatever is asked for. -/
theorem bounded_resolve (page size : Option UInt32) (defaultSize maxSize : UInt32) :
    (resolve page size defaultSize maxSize).Bounded := by
  have hone : (1 : UInt32).toNat = 1 := rfl
  have hundred : maxPageSize.toNat = 100 := rfl
  have hmax := clamp_bounds (show (1 : UInt32).toNat ≤ maxPageSize.toNat by decide) maxSize
  have hdefault := clamp_bounds
    (show (1 : UInt32).toNat ≤ (clamp 1 maxPageSize maxSize).toNat by omega) defaultSize
  have hsize : 1 ≤ (resolve page size defaultSize maxSize).size.toNat ∧
      (resolve page size defaultSize maxSize).size.toNat ≤ 100 := by
    refine getD_filter (P := fun n => 1 ≤ n.toNat ∧ n.toNat ≤ 100) size (fun n hn => ?_) ?_
    · simp only [Bool.and_eq_true, decide_eq_true_eq, UInt32.le_iff_toNat_le] at hn
      omega
    · omega
  refine ⟨?_, hsize.1, hsize.2⟩
  refine getD_filter (P := fun n => 1 ≤ n.toNat) page (fun n hn => ?_) (by decide)
  rw [decide_eq_true_eq, UInt32.le_iff_toNat_le] at hn
  exact hn

/-- A page that is asked for by a number from one on is the one that is answered. -/
theorem resolve_page {n : UInt32} (h : 1 ≤ n.toNat) (size : Option UInt32)
    (defaultSize maxSize : UInt32) : (resolve (some n) size defaultSize maxSize).page = n := by
  unfold resolve
  dsimp only
  rw [Option.filter_some, if_pos (by rw [decide_eq_true_eq, UInt32.le_iff_toNat_le]; exact h)]
  rfl

variable {r : PageRequest}

/-- The number of items before the page is that of all pages before it. -/
theorem Bounded.offset_eq (h : r.Bounded) :
    r.offset = ((r.page.toNat - 1) * r.size.toNat : Nat) := by
  have hpage := h.page
  unfold offset
  rw [Int.natCast_mul, Int.natCast_sub hpage]
  rfl

/-- The number of items before the page fits 64 bits with a sign. -/
theorem Bounded.offset_le (h : r.Bounded) : 0 ≤ r.offset ∧ r.offset ≤ Bounds.highest := by
  have hlast := r.page.toNat_lt
  have hcount : (r.page.toNat - 1) * r.size.toNat ≤ 4294967295 * 100 :=
    Nat.mul_le_mul (by omega) h.size_le
  rw [h.offset_eq]
  unfold Bounds.highest
  omega

theorem Bounded.slice_eq {α : Type} (h : r.Bounded) (items : List α) :
    r.slice items = (items.drop ((r.page.toNat - 1) * r.size.toNat)).take r.size.toNat := by
  unfold slice
  rw [h.offset_eq]
  rfl

end PageRequest

theorem PagingSettings.bounded_resolve (s : PagingSettings) (listing : Listing)
    (page size : Option UInt32) : (s.resolve listing page size).Bounded :=
  PageRequest.bounded_resolve ..

/-! ## Slices -/

/-- **Pages one behind the other** are the beginning of the list. -/
theorem flatMap_slices {α : Type} (items : List α) (size count : Nat) :
    ((List.range count).flatMap fun i => (items.drop (i * size)).take size) =
      items.take (count * size) := by
  induction count with
  | zero => simp
  | succ count ih =>
    rw [List.range_succ, List.flatMap_append, ih, List.flatMap_cons, List.flatMap_nil,
      List.append_nil, Nat.succ_mul, List.take_add]

/-- The least number of pages that holds all items. -/
def pagesFor (count size : Nat) : Nat := (count + (size - 1)) / size

theorem le_pagesFor_mul {count size : Nat} (h : 1 ≤ size) : count ≤ pagesFor count size * size := by
  unfold pagesFor
  have hdiv := Nat.div_add_mod (count + (size - 1)) size
  have hmod := Nat.mod_lt (count + (size - 1)) h
  rw [Nat.mul_comm] at hdiv
  omega

theorem pagesFor_le {count size limit : Nat} (h : 1 ≤ size) (hcount : count ≤ limit * size) :
    pagesFor count size ≤ limit := by
  unfold pagesFor
  refine Nat.le_of_lt_succ ((Nat.div_lt_iff_lt_mul h).2 ?_)
  rw [Nat.succ_mul]
  omega

/-- The total number of pages is the least one that holds all items. -/
theorem Page.totalPages_eq {α : Type} {p : Page α} (h : 1 ≤ p.size.toNat) :
    p.totalPages.toNat = pagesFor p.total.toNat p.size.toNat := by
  have htotal := p.total.toNat_lt
  have hle : pagesFor p.total.toNat p.size.toNat ≤ p.total.toNat :=
    pagesFor_le h (Nat.le_mul_of_pos_right _ h)
  have hmax : max p.size.toNat 1 = p.size.toNat := Nat.max_eq_left h
  unfold Page.totalPages
  dsimp only
  rw [hmax]
  exact UInt64.toNat_ofNat_of_lt' (Nat.lt_of_le_of_lt hle htotal)

end ChatLedger
