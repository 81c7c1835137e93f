import ChatLedger.Store.Rows

/-!
# Amounts in columns

What a column of amounts does to the numbers that it is given.

1. `storedAmount_beq`: a number is stored as one that compares equal. Only the sign of zero is lost.
2. `storedAmount?_storedAmount`: storing what has been stored changes nothing.
-/

namespace ChatLedger.Store

open Float.Model (UnpackedFloat)

/-! ## Numbers -/

/-- What is finite is a number. -/
theorem number_of_isFinite {x : Float} (h : x.isFinite = true) : x.isNaN = false := by
  show x.toModel.unpack.isNaN = false
  change x.toModel.unpack.isFinite = true at h
  cases hx : x.toModel.unpack with
  | notANumber =>
    rw [hx] at h
    cases h
  | _ => rfl

/-- A number compares equal to itself. -/
theorem number_beq_self {x : Float} (h : x.isNaN = false) : (x == x) = true := by
  show UnpackedFloat.beq x.toModel.unpack x.toModel.unpack = true
  change x.toModel.unpack.isNaN = false at h
  cases hx : x.toModel.unpack with
  | notANumber =>
    rw [hx] at h
    cases h
  | infinity s => cases s <;> rfl
  | zero s => rfl
  | finite s m e hm =>
    have hsame : (compare e e).then (compare m m) = .eq := by simp
    cases s with
    | positive =>
      show (some ((compare e e).then (compare m m)) == some Ordering.eq) = true
      rw [hsame]
      rfl
    | negative =>
      show (some ((compare e e).then (compare m m)).swap == some Ordering.eq) = true
      rw [hsame]
      rfl

/-- What compares equal to zero does so from the other side as well. -/
theorem zero_beq {x : Float} (h : (x == 0.0) = true) : (0.0 == x) = true := by
  have hzero : (0.0 : Float).toModel.unpack = .zero .positive := rfl
  show UnpackedFloat.beq (0.0 : Float).toModel.unpack x.toModel.unpack = true
  change UnpackedFloat.beq x.toModel.unpack (0.0 : Float).toModel.unpack = true at h
  rw [hzero] at h ⊢
  cases hx : x.toModel.unpack with
  | zero s => rfl
  | notANumber =>
    rw [hx] at h
    cases h
  | infinity s =>
    rw [hx] at h
    cases s <;> cases h
  | finite s m e hm =>
    rw [hx] at h
    cases s <;> cases h

/-! ## Columns -/

/-- What is stored of an amount is zero or the amount itself. -/
theorem storedAmount_cases (x : Float) :
    storedAmount x = 0.0 ∨ storedAmount x = x ∧ storedAmount? x = some x := by
  unfold storedAmount
  cases hx : storedAmount? x with
  | none => exact .inl rfl
  | some y =>
    unfold storedAmount? at hx
    split at hx
    · cases hx
    · split at hx <;> cases hx
      · exact .inl rfl
      · exact .inr ⟨rfl, rfl⟩

/-- Storing what has been stored changes nothing. -/
theorem storedAmount?_storedAmount (x : Float) :
    storedAmount? (storedAmount x) = some (storedAmount x) := by
  rcases storedAmount_cases x with h | ⟨h, hx⟩
  · rw [h]
    decide +kernel
  · rw [h, hx]

/-- A number is stored as it is, but for the sign of zero. -/
theorem storedAmount?_eq_ite {x : Float} (h : x.isNaN = false) :
    storedAmount? x = some (if (x == 0.0) = true then 0.0 else x) := by
  unfold storedAmount?
  rw [h, if_neg Bool.false_ne_true]
  split <;> rfl

theorem storedAmount?_of_number {x : Float} (h : x.isNaN = false) :
    storedAmount? x = some (storedAmount x) := by
  unfold storedAmount
  rw [storedAmount?_eq_ite h]
  rfl

/-- Only a number is stored. -/
theorem number_of_storedAmount? {x y : Float} (h : storedAmount? x = some y) :
    x.isNaN = false := by
  unfold storedAmount? at h
  cases hx : x.isNaN with
  | false => rfl
  | true =>
    rw [hx, if_pos rfl] at h
    cases h

/-- **A number is stored** as one that compares equal. -/
theorem storedAmount_beq {x : Float} (h : x.isNaN = false) : (storedAmount x == x) = true := by
  unfold storedAmount
  rw [storedAmount?_eq_ite h]
  by_cases hzero : (x == 0.0) = true
  · rw [if_pos hzero]
    exact zero_beq hzero
  · rw [if_neg hzero]
    exact number_beq_self h

end ChatLedger.Store
