import ChatLedger.Proofs.Store.Amounts
import ChatLedger.Store.Figures
import Mathlib.Data.Prod.Lex
import Mathlib.Data.String.Basic
import Mathlib.Order.Compare

/-!
# The order of amounts

Numbers are compared by class, exponent and mantissa, and what is not a number compares with
nothing. So amounts are ordered only as far as they are numbers, which all amounts of the store are.

1. `rank`: where a number stands among all numbers. `number_lt_iff` and `number_beq_iff`: numbers
   compare as their ranks do.
2. `Tables.pairwise_dearerFirst`: entries for different models whose amounts are numbers are put
   into the one order in which the dearer comes first, and of two as dear the one whose name does.
-/

namespace ChatLedger.Store

open Float.Model (UnpackedFloat)

/-! ## Comparisons in turn -/

section Compares

variable {o o' : Ordering}

/-- What is decided in the first place, or else in the second. -/
theorem compares_toLex {α β : Type} [LinearOrder α] [LinearOrder β] {a b : α} {p q : β}
    (h : o.Compares a b) (h' : o'.Compares p q) :
    (o.then o').Compares (toLex (a, p)) (toLex (b, q)) := by
  cases o with
  | lt => exact Prod.Lex.toLex_lt_toLex.2 (.inl h)
  | gt => exact Prod.Lex.toLex_lt_toLex.2 (.inl h)
  | eq =>
    obtain rfl : a = b := h
    cases o' with
    | lt => exact Prod.Lex.toLex_lt_toLex.2 (.inr ⟨rfl, h'⟩)
    | gt => exact Prod.Lex.toLex_lt_toLex.2 (.inr ⟨rfl, h'⟩)
    | eq => exact congrArg (fun p => toLex (a, p)) h'

theorem compares_cast {m n : ℕ} (h : o.Compares m n) : o.Compares (m : ℤ) (n : ℤ) := by
  cases o with
  | lt => exact Int.ofNat_lt.2 h
  | gt => exact Int.ofNat_lt.2 h
  | eq => exact congrArg Int.ofNat h

/-- Below zero everything is the other way round. -/
theorem compares_neg {a b : ℤ} (h : o.Compares a b) : o.Compares (-b) (-a) := by
  cases o with
  | lt => exact Int.neg_lt_neg h
  | gt => exact Int.neg_lt_neg h
  | eq => exact congrArg Neg.neg (Eq.symm h)

end Compares

/-! ## Ranks -/

/-- The class of a number from the lowest to the highest, and within a class its exponent and its
mantissa, which count downwards below zero. -/
def place : UnpackedFloat → ℤ ×ₗ ℤ ×ₗ ℤ
  | .notANumber => toLex (3, toLex (0, 0))
  | .infinity .positive => toLex (2, toLex (0, 0))
  | .finite .positive m e _ => toLex (1, toLex (e, (m : ℤ)))
  | .zero _ => toLex (0, toLex (0, 0))
  | .finite .negative m e _ => toLex (-1, toLex (-e, -(m : ℤ)))
  | .infinity .negative => toLex (-2, toLex (0, 0))

/-- A number of a lower class has a lower place. -/
theorem place_lt_of_class {a b : ℤ} {p q : ℤ ×ₗ ℤ} (h : a < b) : toLex (a, p) < toLex (b, q) :=
  Prod.Lex.toLex_lt_toLex.2 (.inl h)

/-- Positive numbers, and negative ones, compare by exponent and then by mantissa. -/
theorem compare_place_finite {s s' : UnpackedFloat.Sign} {m m' : ℕ} {e e' : ℤ} {h : 0 < m}
    {h' : 0 < m'} : ∃ o, (UnpackedFloat.finite s m e h).compare (.finite s' m' e' h') = some o ∧
      o.Compares (place (.finite s m e h)) (place (.finite s' m' e' h')) := by
  have he : (compare e e').Compares e e' := (compare_iff e e').1 rfl
  have hm : (compare m m').Compares (m : ℤ) m' := compares_cast ((compare_iff m m').1 rfl)
  cases s with
  | positive =>
    cases s' with
    | positive => exact ⟨_, rfl, compares_toLex (o := .eq) rfl (compares_toLex he hm)⟩
    | negative => exact ⟨.gt, rfl, place_lt_of_class (by decide)⟩
  | negative =>
    cases s' with
    | positive => exact ⟨.lt, rfl, place_lt_of_class (by decide)⟩
    | negative =>
      refine ⟨_, rfl, Ordering.compares_swap.2 ?_⟩
      exact compares_toLex (o := .eq) rfl (compares_toLex (compares_neg he) (compares_neg hm))

/-- Numbers compare as their places do. -/
theorem compare_place {a b : UnpackedFloat} (ha : a.isNaN = false) (hb : b.isNaN = false) :
    ∃ o, a.compare b = some o ∧ o.Compares (place a) (place b) := by
  cases a with
  | notANumber => cases ha
  | infinity s =>
    cases b with
    | notANumber => cases hb
    | infinity s' =>
      cases s <;> cases s' <;> first
        | exact ⟨.eq, rfl, rfl⟩
        | exact ⟨.lt, rfl, place_lt_of_class (by decide)⟩
        | exact ⟨.gt, rfl, place_lt_of_class (by decide)⟩
    | zero s' | finite s' m e h =>
      cases s <;> cases s' <;> first
        | exact ⟨.lt, rfl, place_lt_of_class (by decide)⟩
        | exact ⟨.gt, rfl, place_lt_of_class (by decide)⟩
  | zero s =>
    cases b with
    | notANumber => cases hb
    | zero s' => exact ⟨.eq, rfl, rfl⟩
    | infinity s' | finite s' m e h =>
      cases s' <;> first
        | exact ⟨.lt, rfl, place_lt_of_class (by decide)⟩
        | exact ⟨.gt, rfl, place_lt_of_class (by decide)⟩
  | finite s m e h =>
    cases b with
    | notANumber => cases hb
    | finite s' m' e' h' => exact compare_place_finite
    | infinity s' | zero s' =>
      cases s <;> cases s' <;> first
        | exact ⟨.lt, rfl, place_lt_of_class (by decide)⟩
        | exact ⟨.gt, rfl, place_lt_of_class (by decide)⟩

/-- Where a number stands. -/
def rank (x : Float) : ℤ ×ₗ ℤ ×ₗ ℤ := place x.toModel.unpack

/-- **Numbers are ordered** by their ranks. -/
theorem number_lt_iff {x y : Float} (hx : x.isNaN = false) (hy : y.isNaN = false) :
    x < y ↔ rank x < rank y := by
  obtain ⟨o, ho, hcompares⟩ := compare_place (a := x.toModel.unpack) (b := y.toModel.unpack) hx hy
  have hlt : x < y ↔ UnpackedFloat.lt x.toModel.unpack y.toModel.unpack = true := by
    show decide (x.toModel < y.toModel) = true ↔ _
    rw [decide_eq_true_iff]
    rfl
  rw [hlt]
  unfold UnpackedFloat.lt
  rw [ho, beq_iff_eq, Option.some.injEq]
  exact hcompares.eq_lt

/-- Numbers compare equal where their ranks are equal. -/
theorem number_beq_iff {x y : Float} (hx : x.isNaN = false) (hy : y.isNaN = false) :
    (x == y) = true ↔ rank x = rank y := by
  obtain ⟨o, ho, hcompares⟩ := compare_place (a := x.toModel.unpack) (b := y.toModel.unpack) hx hy
  show UnpackedFloat.beq x.toModel.unpack y.toModel.unpack = true ↔ _
  unfold UnpackedFloat.beq
  rw [ho, beq_iff_eq, Option.some.injEq]
  exact hcompares.eq_eq

namespace Tables

/-! ## Entries -/

/-- Where an entry stands among the others: by its amount downwards, and then by its name. -/
def standing (u : ModelUsage) : (ℤ ×ₗ ℤ ×ₗ ℤ)ᵒᵈ ×ₗ String :=
  toLex (OrderDual.toDual (rank u.cost), u.model)

variable {a b : ModelUsage} {entries : List ModelUsage}

/-- Entries with numbers are compared by where they stand. -/
theorem dearerFirst_eq (ha : a.cost.isNaN = false) (hb : b.cost.isNaN = false) :
    dearerFirst a b = decide (standing a ≤ standing b) := by
  rw [Bool.eq_iff_iff, decide_eq_true_iff]
  unfold dearerFirst standing
  rw [Bool.or_eq_true, Bool.and_eq_true, decide_eq_true_iff, decide_eq_true_iff,
    number_lt_iff hb ha, number_beq_iff ha hb, Prod.Lex.toLex_le_toLex]
  rfl

/-- The earlier entry is dearer, or as dear and has the earlier name. -/
def DearerOrNamedFirst (a b : ModelUsage) : Prop :=
  b.cost < a.cost ∨ (a.cost == b.cost) = true ∧ a.model < b.model

theorem dearerOrNamedFirst_of_standing (ha : a.cost.isNaN = false) (hb : b.cost.isNaN = false)
    (h : standing a < standing b) : DearerOrNamedFirst a b := by
  rcases Prod.Lex.toLex_lt_toLex.1 h with hcost | ⟨hsame, hmodel⟩
  · exact .inl ((number_lt_iff hb ha).2 hcost)
  · exact .inr ⟨(number_beq_iff ha hb).2 hsame, hmodel⟩

/-- What is sorted depends on how its own members compare. -/
theorem mergeSort_congr {α : Type} {l : List α} {r s : α → α → Bool}
    (h : ∀ a ∈ l, ∀ b ∈ l, r a b = s a b) : l.mergeSort r = l.mergeSort s := by
  have hmap := List.map_mergeSort (f := id) (s := s) h
  rwa [List.map_id, List.map_id] at hmap

/-- **Entries for different models** whose amounts are numbers are put into order, so that no two of
them could change places. -/
theorem pairwise_dearerFirst (numbers : ∀ u ∈ entries, u.cost.isNaN = false)
    (distinct : (entries.map (·.model)).Nodup) :
    (entries.mergeSort dearerFirst).Pairwise DearerOrNamedFirst := by
  have hsame : entries.mergeSort dearerFirst =
      entries.mergeSort fun a b => decide (standing a ≤ standing b) :=
    mergeSort_congr fun a ha b hb => dearerFirst_eq (numbers a ha) (numbers b hb)
  have sorted : (entries.mergeSort fun a b => decide (standing a ≤ standing b)).Pairwise
      fun a b => decide (standing a ≤ standing b) = true := by
    refine List.pairwise_mergeSort (fun a b c hab hbc => ?_) (fun a b => ?_) entries
    · exact decide_eq_true (le_trans (of_decide_eq_true hab) (of_decide_eq_true hbc))
    · rw [Bool.or_eq_true, decide_eq_true_iff, decide_eq_true_iff]
      exact le_total _ _
  have apart : (entries.mergeSort dearerFirst).Pairwise fun a b => a.model ≠ b.model :=
    List.pairwise_map.1 (((List.mergeSort_perm ..).map _).nodup_iff.2 distinct)
  rw [hsame] at apart ⊢
  refine (sorted.and apart).imp_of_mem fun {a b} ha hb ⟨hle, hne⟩ => ?_
  refine dearerOrNamedFirst_of_standing (numbers a (List.mem_mergeSort.1 ha))
    (numbers b (List.mem_mergeSort.1 hb)) (lt_of_le_of_ne (of_decide_eq_true hle) fun heq => ?_)
  exact hne (congrArg (fun p => (ofLex p).2) heq)

end Tables

end ChatLedger.Store
