import ChatLedger.Json.Reader
import ChatLedger.Json.Wire
import Mathlib.Algebra.Group.Nat.Defs

/-!
# Numbers that are read are finite

Followed down to the bits of the binary64 format, in which an infinity, and what is no number, have
an exponent of ones only.

1. `Fits`: a number that the format holds. What fits is packed into something finite
   (`fits_unpack_pack`), and what is finite fits (`fits_of_isFinite`).
2. `Wire.numberOfInteger_isFinite`: an integer of a document is read as a finite number. Rounding
   can add only so much to the exponent, and 64 bits are far from the end of the range.
3. `isNaN_toFloat`: a decimal is rounded to a number, though perhaps to an infinite one, which the
   reader of documents turns away.
-/

namespace ChatLedger.Decimal

open Float.Model (Format UnpackedFloat totalExponent)
open Float.Model.UnpackedFloat (Accuracy ExtendedMantissa Sign)

/-- The format holds the number, for which its exponent must not lie beyond the last one. -/
def Fits : UnpackedFloat → Prop
  | .zero _ => True
  | .finite _ _ e _ => e ≤ 971
  | .infinity _ | .notANumber => False

theorem Fits.cases {x : UnpackedFloat} (h : Fits x) :
    (∃ s, x = .zero s) ∨ ∃ s m e hm, x = .finite s m e hm := by
  cases x with
  | zero s => exact .inl ⟨s, rfl⟩
  | finite s m e hm => exact .inr ⟨s, m, e, hm, rfl⟩
  | infinity s => exact h.elim
  | notANumber => exact h.elim

theorem isFinite_of_fits {x : UnpackedFloat} (h : Fits x) : x.isFinite = true := by
  obtain ⟨s, rfl⟩ | ⟨s, m, e, hm, rfl⟩ := h.cases <;> rfl

theorem exponentBias_binary64 : Format.binary64.exponentBias = 1023 := by decide

theorem targetExponent_binary64 (m : Nat) (e : Int) :
    Format.binary64.targetExponent (totalExponent m e) =
      max ((m.log2 : Int) + 1 + e - 53) (-1074) := rfl

/-! ## Packing -/

/-- What fits is not packed as an infinity. -/
theorem unpackExponent_pack {x : UnpackedFloat} (h : Fits x) :
    UnpackedFloat.unpackExponent (UnpackedFloat.pack Format.binary64 x) ≠ -1#_ := by
  obtain ⟨s, rfl⟩ | ⟨s, m, e, hm, rfl⟩ := h.cases
  · unfold UnpackedFloat.pack UnpackedFloat.packedZero
    rw [UnpackedFloat.unpackExponent_packComponents]
    decide
  · have he : e ≤ 971 := h
    unfold UnpackedFloat.pack
    dsimp only
    rw [exponentBias_binary64]
    dsimp only [Format.binary64]
    rw [if_neg (by omega)]
    split
    · -- with its implicit bit: the exponent lies below the one of ones only
      rw [UnpackedFloat.unpackExponent_packComponents]
      intro hones
      have htoNat := congrArg BitVec.toNat hones
      rw [BitVec.toNat_ofNat] at htoNat
      change _ = 2047 at htoNat
      omega
    · rw [UnpackedFloat.unpackExponent_packComponents]
      decide

theorem fits_unpack {b : BitVec Format.binary64.numBits}
    (h : UnpackedFloat.unpackExponent b ≠ -1#_) : Fits (UnpackedFloat.unpack Format.binary64 b) := by
  have hlt := (UnpackedFloat.unpackExponent b).isLt
  have hne : (UnpackedFloat.unpackExponent b).toNat ≠ 2047 := fun hones =>
    h (BitVec.eq_of_toNat_eq hones)
  unfold UnpackedFloat.unpack
  dsimp only
  rw [if_neg h, exponentBias_binary64]
  by_cases hzero : UnpackedFloat.unpackExponent b = 0#_
  · rw [if_pos hzero]
    by_cases hm : UnpackedFloat.unpackMantissa b = 0#_
    · rw [dif_pos hm]
      trivial
    · rw [dif_neg hm]
      show _ ≤ (971 : Int)
      rw [hzero]
      decide
  · rw [if_neg hzero]
    show _ ≤ (971 : Int)
    dsimp only [Format.binary64] at hlt hne ⊢
    omega

theorem fits_unpack_pack {x : UnpackedFloat} (h : Fits x) : Fits (Float.Model.pack x).unpack :=
  fits_unpack (unpackExponent_pack h)

theorem fits_of_isFinite {x : Float} (h : x.isFinite = true) : Fits x.toModel.unpack := by
  refine fits_unpack fun hones => ?_
  change (UnpackedFloat.unpack Format.binary64 x.toModel.toBits.toBitVec).isFinite = true at h
  unfold UnpackedFloat.unpack at h
  dsimp only at h
  rw [if_pos hones] at h
  split at h <;> cases h

theorem isFinite_neg {x : Float} (h : x.isFinite = true) : (-x).isFinite = true := by
  have hfits := fits_of_isFinite h
  refine isFinite_of_fits (fits_unpack_pack ?_)
  cases hx : x.toModel.unpack <;> rw [hx] at hfits <;> exact hfits

/-! ## Rounding -/

theorem shiftRight_mantissa_le (em : ExtendedMantissa) (k : Nat) :
    (em >>> k).mantissa ≤ em.mantissa := by
  induction k with
  | zero => exact Nat.le_refl _
  | succ k ih =>
    show (em >>> k).mantissa / 2 ≤ em.mantissa
    omega

theorem roundedMantissa_le (em : ExtendedMantissa) : em.roundedMantissa ≤ em.mantissa + 1 := by
  obtain ⟨m, round, sticky⟩ := em
  cases round <;> cases sticky
  · exact Nat.le_succ m
  · exact Nat.le_succ m
  · show m + m % 2 ≤ m + 1
    omega
  · exact Nat.le_refl _

theorem ofMantissaAndAccuracy_mantissa (m : Nat) (a : Accuracy) :
    (ExtendedMantissa.ofMantissaAndAccuracy m a).mantissa = m := by
  cases a with
  | exact => rfl
  | inexact o => cases o <;> rfl

/-- A shift to the exponent of the format drops bits and leaves an exponent that is bounded. -/
theorem shiftToTargetExponent_bounds {m : Nat} {e : Int} {a : Accuracy} {b : Nat} {c : Int}
    (hm : m.log2 ≤ b) (he : e ≤ c) (hc : -1074 ≤ c) :
    (UnpackedFloat.shiftToTargetExponent Format.binary64 m e a).1.mantissa ≤ m ∧
      (UnpackedFloat.shiftToTargetExponent Format.binary64 m e a).2 ≤ c + b := by
  refine ⟨?_, ?_⟩
  · exact Nat.le_trans (shiftRight_mantissa_le _ _)
      (Nat.le_of_eq (ofMantissaAndAccuracy_mantissa m a))
  · show e + ((Format.binary64.targetExponent (totalExponent m e) - e).toNat : Int) ≤ c + b
    rw [targetExponent_binary64]
    omega

/-- Rounding shifts twice, since the first result may be one bit too long. -/
theorem roundWithAccuracy_cases (s : Sign) (m : Nat) (e : Int) (a : Accuracy) :
    let first := UnpackedFloat.shiftToTargetExponent Format.binary64 m e a
    let second := UnpackedFloat.shiftToTargetExponent Format.binary64 first.1.roundedMantissa
      first.2 .exact
    UnpackedFloat.roundWithAccuracy Format.binary64 s m e a = .zero s ∨
      ∃ h, UnpackedFloat.roundWithAccuracy Format.binary64 s m e a =
        .finite s second.1.mantissa second.2 h := by
  intro first second
  by_cases h : second.1.mantissa = 0
  · exact .inl (dif_pos h)
  · exact .inr ⟨Nat.pos_of_ne_zero h, dif_neg h⟩

theorem fits_roundWithAccuracy {s : Sign} {m : Nat} {e : Int} {a : Accuracy} (hm : m < 2 ^ 200)
    (he : e ≤ 100) : Fits (UnpackedFloat.roundWithAccuracy Format.binary64 s m e a) := by
  have hlog {n : Nat} (hn : n ≤ 2 ^ 200) : n.log2 ≤ 200 := by
    rcases Nat.eq_zero_or_pos n with rfl | hpos
    · decide
    · exact Nat.le_of_lt_succ
        ((Nat.log2_lt (Nat.ne_of_gt hpos)).2 (Nat.lt_of_le_of_lt hn (by decide)))
  obtain ⟨hm₁, he₁⟩ := shiftToTargetExponent_bounds (a := a) (hlog (Nat.le_of_lt hm)) he (by decide)
  have hr := roundedMantissa_le (UnpackedFloat.shiftToTargetExponent Format.binary64 m e a).1
  obtain ⟨-, he₂⟩ := shiftToTargetExponent_bounds (a := .exact) (hlog (Nat.le_trans hr (by omega)))
    he₁ (by decide)
  obtain hzero | ⟨_, hfinite⟩ := roundWithAccuracy_cases s m e a
  · rw [hzero]
    trivial
  · rw [hfinite]
    exact Int.le_trans he₂ (by decide)

theorem fits_round {s : Sign} {n : Nat} (h : n < 2 ^ 64) :
    Fits (UnpackedFloat.round Format.binary64 s n 0) := by
  unfold UnpackedFloat.round UnpackedFloat.decreaseExponent
  dsimp only
  refine fits_roundWithAccuracy ?_ (by omega)
  rw [targetExponent_binary64, Nat.shiftLeft_eq]
  calc n * 2 ^ (0 - max ((n.log2 : Int) + 1 + 0 - 53) (-1074)).toNat
      ≤ n * 2 ^ 52 := Nat.mul_le_mul_left n (Nat.pow_le_pow_right (by decide) (by omega))
    _ < 2 ^ 200 := by omega

/-- Every count of 64 bits is a finite number. -/
theorem toFloat_isFinite (n : UInt64) : n.toFloat.isFinite = true := by
  refine isFinite_of_fits (fits_unpack_pack ?_)
  show Fits (UnpackedFloat.normalize Format.binary64 (n.toNat : Int) 0 .positive)
  unfold UnpackedFloat.normalize
  split
  · rename_i hneg
    have := Int.compare_eq_lt.1 hneg
    omega
  · trivial
  · exact fits_round n.toNat_lt

/-! ## Numbers that may be infinite -/

theorem isNaN_roundWithAccuracy (s : Sign) (m : Nat) (e : Int) (a : Accuracy) :
    (UnpackedFloat.roundWithAccuracy Format.binary64 s m e a).isNaN = false := by
  obtain h | ⟨_, h⟩ := roundWithAccuracy_cases s m e a <;>
    rw [h] <;> rfl

/-- Packing leaves a number a number, though one that does not fit gets infinite. -/
theorem isNaN_unpack_pack {x : UnpackedFloat} (h : x.isNaN = false) :
    (Float.Model.pack x).unpack.isNaN = false := by
  have hinfinity (s : Sign) : (Float.Model.pack (.infinity s)).unpack.isNaN = false := by
    cases s <;> decide
  cases x with
  | notANumber => cases h
  | infinity s => exact hinfinity s
  | zero s => cases s <;> decide
  | finite s m e hm =>
    by_cases he : e ≤ 971
    · obtain ⟨s, hx⟩ | ⟨s, m, e, hm, hx⟩ := (fits_unpack_pack (x := .finite s m e hm) he).cases <;>
        rw [hx] <;> rfl
    · have hpack : UnpackedFloat.pack Format.binary64 (.finite s m e hm) =
          UnpackedFloat.pack Format.binary64 (.infinity s) := by
        unfold UnpackedFloat.pack
        dsimp only
        rw [exponentBias_binary64]
        dsimp only [Format.binary64]
        rw [if_pos (by omega)]
      have hsame : (Float.Model.pack (.finite s m e hm)).unpack =
          (Float.Model.pack (.infinity s)).unpack :=
        congrArg (UnpackedFloat.unpack Format.binary64) hpack
      rw [hsame]
      exact hinfinity s

/-- The powers of ten that are kept ready are numbers above zero. -/
theorem power_pos : ∀ x ∈ Float.exactlyRepresentablePowersOfTen,
    (0.0 : Float) < x ∧ x.isFinite = true := by
  decide +kernel

/-- A finite number above zero has a mantissa. -/
theorem unpack_of_pos {x : Float} (hpos : (0.0 : Float) < x) (h : x.isFinite = true) :
    ∃ s m e hm, x.toModel.unpack = .finite s m e hm := by
  have hlt : UnpackedFloat.lt (0.0 : Float).toModel.unpack x.toModel.unpack = true :=
    of_decide_eq_true hpos
  have hzero : (0.0 : Float).toModel.unpack = .zero .positive := rfl
  obtain ⟨s, hx⟩ | hfinite := (fits_of_isFinite h).cases
  · rw [hzero, hx] at hlt
    cases hlt
  · exact hfinite

/-- Products and quotients of a finite number and one above zero are numbers. -/
theorem isNaN_mul_div {x y : Float} (hx : x.isFinite = true) (hpos : (0.0 : Float) < y)
    (hy : y.isFinite = true) : (x * y).isNaN = false ∧ (x / y).isNaN = false := by
  obtain ⟨s, m, e, hm, hy⟩ := unpack_of_pos hpos hy
  refine ⟨isNaN_unpack_pack ?_, isNaN_unpack_pack ?_⟩ <;> rw [hy]
  all_goals
    obtain ⟨s', hx⟩ | ⟨s', m', e', hm', hx⟩ := (fits_of_isFinite hx).cases <;> rw [hx]
    · rfl
    · exact isNaN_roundWithAccuracy ..

theorem isNaN_unpacked_ofScientific (m : Nat) (e : Int) :
    (UnpackedFloat.ofScientific Format.binary64 m e).isNaN = false := by
  unfold UnpackedFloat.ofScientific
  by_cases hzero : m = 0
  · rw [dif_pos hzero]
    rfl
  rw [dif_neg hzero]
  -- far beyond the range on either side, and else by whether there is a fraction
  by_cases hlarge : e > 2 ^ Format.binary64.exponentBits
  · rw [if_pos hlarge]
    rfl
  rw [if_neg hlarge]
  by_cases hsmall : e < -(2 ^ Format.binary64.exponentBits + (m.log2 : Int))
  · rw [if_pos hsmall]
    rfl
  rw [if_neg hsmall]
  by_cases hwhole : 0 ≤ e
  · rw [if_pos hwhole]
    exact isNaN_roundWithAccuracy ..
  · rw [if_neg hwhole]
    exact isNaN_roundWithAccuracy ..

theorem isNaN_ofScientific (m : Nat) (negative : Bool) (e : Nat) :
    (Float.ofScientific m negative e).isNaN = false := by
  unfold Float.ofScientific
  split
  · obtain ⟨hpos, hfinite⟩ := power_pos _ (Array.getElem_mem _)
    obtain ⟨hmul, hdiv⟩ := isNaN_mul_div (toFloat_isFinite m.toUInt64) hpos hfinite
    dsimp only
    split
    · exact hdiv
    · exact hmul
  · exact isNaN_unpack_pack (isNaN_unpacked_ofScientific m _)

theorem isNaN_neg {x : Float} (h : x.isNaN = false) : (-x).isNaN = false := by
  have hneg : x.toModel.unpack.neg.isNaN = x.toModel.unpack.isNaN := by
    cases x.toModel.unpack <;> rfl
  exact isNaN_unpack_pack (hneg.trans h)

/-- **A decimal is rounded to a number**, though perhaps to an infinite one. -/
theorem isNaN_toFloat (negative : Bool) (digits : Nat) (exponent : Int) :
    (toFloat negative digits exponent).isNaN = false := by
  have hzero : (0.0 : Float).isNaN = false := isNaN_ofScientific ..
  unfold toFloat
  dsimp only
  generalize hx : (if digits = 0 then (0.0 : Float) else _) = x
  have hmagnitude : x.isNaN = false := by
    rw [← hx]
    split
    · exact hzero
    · split
      · decide
      · split
        · exact hzero
        · exact isNaN_ofScientific ..
  split
  · exact isNaN_neg hmagnitude
  · exact hmagnitude

/-- What is neither infinite nor no number is finite. -/
theorem isFinite_of_isInf {x : Float} (h : x.isNaN = false) (hinf : x.isInf = false) :
    x.isFinite = true := by
  change x.toModel.unpack.isNaN = false at h
  change x.toModel.unpack.isInf = false at hinf
  show x.toModel.unpack.isFinite = true
  cases hx : x.toModel.unpack with
  | notANumber =>
    rw [hx] at h
    cases h
  | infinity s =>
    rw [hx] at hinf
    cases hinf
  | _ => rfl

end ChatLedger.Decimal

namespace ChatLedger.Wire

/-- **An integer is read as a finite number.** -/
theorem numberOfInteger_isFinite (n : Int) : (numberOfInteger n).isFinite = true := by
  unfold numberOfInteger
  split
  · exact Decimal.isFinite_neg (Decimal.toFloat_isFinite _)
  · exact Decimal.toFloat_isFinite _

end ChatLedger.Wire
