import ChatLedger.Decimal.CompensatedSum
import ChatLedger.Proofs.Reading.FiniteNumbers
import Mathlib

/-!
# Numbers that are kept exactly

1. `unpack_pack`: a number whose mantissa is filled is unpacked as it has been packed. The other way
   round holds of every number (`ofModel_pack`).
2. `compensatedSum_singleton`: the sum of one number is that number. Nothing is lost by its one
   addition, so the error that is carried along stays zero.
3. `Wire.exactValue_numberOfInteger`: an integer of 53 bits is read as the number it writes. Its
   mantissa is shifted to the left until it is filled, and no bit of it is rounded away.
-/

namespace ChatLedger.Decimal

open Float.Model (Format UnpackedFloat totalExponent)
open Float.Model.UnpackedFloat (ExtendedMantissa Sign)

/-! ## Packing and unpacking -/

section Filled

variable {s : Sign} {e : BitVec 11} {m : BitVec 52}

theorem toNat_withImplicit (m : BitVec 52) : (1#1 ++ m).toNat = 2 ^ 52 + m.toNat := by
  rw [BitVec.toNat_append, ← Nat.shiftLeft_add_eq_or_of_lt m.isLt]
  rfl

theorem ne_ones (hones : e.toNat < 2047) : ¬ e = -1#11 := by
  rintro rfl
  exact absurd hones (by decide)

theorem unpack_normal (hzero : 0 < e.toNat) (hones : e.toNat < 2047) (hm : 0 < (1#1 ++ m).toNat) :
    UnpackedFloat.unpack Format.binary64 (UnpackedFloat.packComponents Format.binary64 s e m) =
      .finite s (1#1 ++ m).toNat (e.toNat - 1075) hm := by
  have hnotZero : ¬ e = 0#11 := by
    rintro rfl
    exact absurd hzero (by decide)
  unfold UnpackedFloat.unpack
  simp only [UnpackedFloat.unpackExponent_packComponents,
    UnpackedFloat.unpackMantissa_packComponents, UnpackedFloat.unpackSign_packComponents,
    Sign.ofBitVec_toBitVec, exponentBias_binary64]
  rw [if_neg (ne_ones hones), if_neg hnotZero]
  rfl

theorem pack_normal (hzero : 0 < e.toNat) (hones : e.toNat < 2047) (hm : 0 < (1#1 ++ m).toNat) :
    UnpackedFloat.pack Format.binary64 (.finite s (1#1 ++ m).toNat (e.toNat - 1075) hm) =
      UnpackedFloat.packComponents Format.binary64 s e m := by
  rw [← unpack_normal hzero hones hm, UnpackedFloat.pack_unpack _ (by decide), if_neg]
  unfold UnpackedFloat.isNaNBits
  rw [UnpackedFloat.unpackExponent_packComponents, decide_eq_true_eq]
  exact fun h => ne_ones hones h.1

end Filled

/-- A number whose mantissa is filled is unpacked as it has been packed. -/
theorem unpack_pack {s : Sign} {n : Nat} {e : Int} (hn : 0 < n) (hlog : n.log2 = 52)
    (hlow : -1074 ≤ e) (hhigh : e ≤ 971) :
    (Float.Model.pack (.finite s n e hn)).unpack = .finite s n e hn := by
  obtain ⟨hle, hlt⟩ := (Nat.log2_eq_iff (Nat.ne_of_gt hn)).1 hlog
  -- exponent and mantissa as they stand in the bits
  have hexponent : (BitVec.ofNat 11 (e + 1075).toNat).toNat = (e + 1075).toNat := by
    rw [BitVec.toNat_ofNat]
    omega
  have hmantissa : (1#1 ++ BitVec.ofNat 52 n).toNat = n := by
    rw [toNat_withImplicit, BitVec.toNat_ofNat]
    omega
  have hpos : 0 < (1#1 ++ BitVec.ofNat 52 n).toNat := by omega
  have hparts : UnpackedFloat.finite s n e hn = .finite s (1#1 ++ BitVec.ofNat 52 n).toNat
      ((BitVec.ofNat 11 (e + 1075).toNat).toNat - 1075) hpos := by
    congr 1
    · exact hmantissa.symm
    · rw [hexponent]
      omega
  rw [hparts]
  refine Eq.trans (congrArg (UnpackedFloat.unpack Format.binary64) (pack_normal ?_ ?_ hpos))
    (unpack_normal ?_ ?_ hpos) <;> rw [hexponent] <;> omega

/-- Every number is what its unpacked form is packed into. -/
theorem ofModel_pack {x : Float} {y : UnpackedFloat} (hy : x.toModel.unpack = y) :
    Float.ofModel (Float.Model.pack y) = x := by
  subst hy
  exact Float.ofBits_toBits x

/-! ## The sum of one number -/

/-- Zero adds nothing to a number that has a mantissa. -/
theorem zero_add_of_finite {x : Float} {s : Sign} {m : Nat} {e : Int} {hm : 0 < m}
    (hx : x.toModel.unpack = .finite s m e hm) : 0.0 + x = x ∧ x + 0.0 = x := by
  refine ⟨ofModel_pack ?_, ofModel_pack ?_⟩ <;> rw [hx] <;> rfl

/-- A number less itself is zero. -/
theorem sub_self_of_finite {x : Float} {s : Sign} {m : Nat} {e : Int} {hm : 0 < m}
    (hx : x.toModel.unpack = .finite s m e hm) : x - x = 0.0 := by
  have hsub : UnpackedFloat.sub Format.binary64 x.toModel.unpack x.toModel.unpack =
      .zero .positive := by
    rw [hx]
    unfold UnpackedFloat.sub
    dsimp only
    rw [Int.sub_self]
    rfl
  exact congrArg (fun y => Float.ofModel (Float.Model.pack y)) hsub

theorem unpackSign_pack (s : Sign) (m : Nat) (e : Int) (hm : 0 < m) :
    UnpackedFloat.unpackSign (UnpackedFloat.pack Format.binary64 (.finite s m e hm)) =
      s.toBitVec := by
  unfold UnpackedFloat.pack
  dsimp only
  split
  · exact UnpackedFloat.unpackSign_packComponents ..
  · split <;> exact UnpackedFloat.unpackSign_packComponents ..

/-- What has no minus sign does not lie below zero. -/
theorem compare_zero_of_sign {b : BitVec Format.binary64.numBits}
    (h : UnpackedFloat.unpackSign b = 0#1) :
    (UnpackedFloat.unpack Format.binary64 b).compare (.zero .positive) ≠ some .lt := by
  have hsign : Sign.ofBitVec (UnpackedFloat.unpackSign b) = .positive := by
    rw [h]
    rfl
  unfold UnpackedFloat.unpack
  dsimp only
  rw [hsign]
  split
  · split <;> simp [UnpackedFloat.compare]
  · split
    · split <;> simp [UnpackedFloat.compare]
    · simp [UnpackedFloat.compare]

/-- The first number of a sum is not smaller than the zero that the sum begins with. -/
theorem not_zero_abs_gt {x : Float} {s : Sign} {m : Nat} {e : Int} {hm : 0 < m}
    (hx : x.toModel.unpack = .finite s m e hm) : ¬ (0.0 : Float).abs > x.abs := by
  intro hgt
  have hlt : UnpackedFloat.lt (Float.Model.pack x.toModel.unpack.abs).unpack
      (.zero .positive) = true := of_decide_eq_true hgt
  rw [hx] at hlt
  exact compare_zero_of_sign (unpackSign_pack .positive m e hm) (eq_of_beq hlt)

/-- **The sum of one number is that number.** -/
theorem compensatedSum_singleton {x : Float} (h : x.isFinite = true) :
    (compensatedSum [x] == x) = true := by
  obtain ⟨s, hx⟩ | ⟨s, m, e, hm, hx⟩ := (fits_of_isFinite h).cases
  · rw [← ofModel_pack hx]
    cases s <;> decide
  · obtain ⟨hleft, hright⟩ := zero_add_of_finite hx
    have hadd : RunningSum.add ⟨0.0, 0.0⟩ x = ⟨x, 0.0⟩ := by
      unfold RunningSum.add
      dsimp only
      rw [hleft, if_neg (not_zero_abs_gt hx), sub_self_of_finite hx]
      rfl
    have hvalue : compensatedSum [x] = x := by
      show RunningSum.value (RunningSum.add ⟨0.0, 0.0⟩ x) = x
      rw [hadd]
      unfold RunningSum.value
      dsimp only
      rw [if_pos (by decide)]
      exact hright
    rw [hvalue]
    show (x.toModel.unpack.compare x.toModel.unpack == some .eq) = true
    rw [hx]
    cases s <;> simp [UnpackedFloat.compare]

/-! ## The value of an integer -/

/-- The number that sign, mantissa and exponent stand for. -/
def exactValue (x : Float) : Option ℚ :=
  match x.toModel.unpack with
  | .zero _ => some 0
  | .finite s m e _ => some ((s.apply m : ℚ) * 2 ^ e)
  | .infinity _ | .notANumber => none

theorem exactValue_of_finite {x : Float} {s : Sign} {m : Nat} {e : Int} {hm : 0 < m}
    (hx : x.toModel.unpack = .finite s m e hm) : exactValue x = some ((s.apply m : ℚ) * 2 ^ e) := by
  unfold exactValue
  rw [hx]

theorem log2_mul_two_pow {n : Nat} (hn : 0 < n) (k : Nat) : (n * 2 ^ k).log2 = n.log2 + k := by
  induction k with
  | zero => rw [Nat.pow_zero, Nat.mul_one, Nat.add_zero]
  | succ k ih =>
    have hpos : n * 2 ^ k ≠ 0 := Nat.ne_of_gt (Nat.mul_pos hn (Nat.two_pow_pos k))
    rw [Nat.pow_succ', Nat.mul_left_comm, Nat.log2_two_mul hpos, ih, Nat.add_assoc]

/-- A mantissa that is filled already is left as it is. -/
theorem shiftToTargetExponent_of_filled {n : Nat} {e : Int} (hlog : n.log2 = 52)
    (he : -1074 ≤ e) :
    UnpackedFloat.shiftToTargetExponent Format.binary64 n e .exact = (⟨n, false, false⟩, e) := by
  have htarget : Format.binary64.targetExponent (totalExponent n e) = e := by
    rw [targetExponent_binary64, hlog]
    omega
  unfold UnpackedFloat.shiftToTargetExponent UnpackedFloat.shiftToExponent
  dsimp only
  rw [htarget, Int.sub_self]
  exact congrArg _ (Int.add_zero e)

theorem roundWithAccuracy_of_filled {s : Sign} {n : Nat} {e : Int} (hn : 0 < n)
    (hlog : n.log2 = 52) (he : -1074 ≤ e) :
    UnpackedFloat.roundWithAccuracy Format.binary64 s n e .exact = .finite s n e hn := by
  have hshift := shiftToTargetExponent_of_filled hlog he
  have hsame : ExtendedMantissa.roundedMantissa ⟨n, false, false⟩ = n := rfl
  unfold UnpackedFloat.roundWithAccuracy
  simp only [hshift, hsame]
  rw [dif_neg (Nat.ne_of_gt hn)]

/-- A count below `2 ^ 53` is shifted until its mantissa is filled, and nothing is rounded. -/
theorem round_of_lt {s : Sign} {n : Nat} (hn : 0 < n) (hlt : n < 2 ^ 53) :
    ∃ k : Nat, ∃ h, (n * 2 ^ k).log2 = 52 ∧ k ≤ 52 ∧
      UnpackedFloat.round Format.binary64 s n 0 = .finite s (n * 2 ^ k) (-k) h := by
  have hlog : n.log2 < 53 := (Nat.log2_lt (Nat.ne_of_gt hn)).2 hlt
  obtain ⟨k, hk⟩ : ∃ k, n.log2 + k = 52 := ⟨52 - n.log2, by omega⟩
  have hpos : 0 < n * 2 ^ k := Nat.mul_pos hn (Nat.two_pow_pos k)
  have hfilled : (n * 2 ^ k).log2 = 52 := (log2_mul_two_pow hn k).trans hk
  have hshift : (0 - Format.binary64.targetExponent (totalExponent n 0)).toNat = k := by
    rw [targetExponent_binary64]
    omega
  refine ⟨k, hpos, hfilled, by omega, ?_⟩
  unfold UnpackedFloat.round UnpackedFloat.decreaseExponent
  dsimp only
  rw [hshift, Nat.shiftLeft_eq, Int.zero_sub]
  exact roundWithAccuracy_of_filled hpos hfilled (by omega)

/-- The value of what has been packed, for a mantissa that is filled. -/
theorem exactValue_pack {s : Sign} {n k : Nat} (hpos : 0 < n * 2 ^ k)
    (hlog : (n * 2 ^ k).log2 = 52) (hk : k ≤ 52) :
    exactValue (.ofModel (.pack (.finite s (n * 2 ^ k) (-k) hpos))) = some (s.apply n : ℚ) := by
  have hpow : (2 : ℚ) ^ k ≠ 0 := pow_ne_zero k (by decide)
  refine (exactValue_of_finite (unpack_pack hpos hlog (by omega) (by omega))).trans ?_
  cases s <;> simp [Sign.apply, hpow]

/-- A count below `2 ^ 53` as a number, on either side of zero. -/
theorem exactValue_toFloat {n : Nat} (hn : 0 < n) (hlt : n < 2 ^ 53) :
    exactValue n.toUInt64.toFloat = some (n : ℚ) ∧
      exactValue (-n.toUInt64.toFloat) = some (-n : ℚ) := by
  obtain ⟨k, hpos, hfilled, hk, hround⟩ := round_of_lt (s := .positive) hn hlt
  have hfloat : n.toUInt64.toFloat =
      .ofModel (.pack (.finite .positive (n * 2 ^ k) (-k) hpos)) := by
    have htoNat : n.toUInt64.toNat = n := Nat.mod_eq_of_lt (by omega)
    show Float.ofModel (.pack (UnpackedFloat.normalize _ (n.toUInt64.toNat : Int) 0 .positive)) = _
    unfold UnpackedFloat.normalize
    rw [htoNat, Int.compare_eq_gt.2 (by omega)]
    dsimp only
    rw [Int.toNat_natCast, hround]
  have hneg : -n.toUInt64.toFloat =
      .ofModel (.pack (.finite .negative (n * 2 ^ k) (-k) hpos)) := by
    have hunpack := unpack_pack (s := .positive) hpos hfilled (show -1074 ≤ -(k : Int) by omega)
      (by omega)
    rw [hfloat]
    show Float.ofModel (.pack (Float.Model.pack _).unpack.neg) = _
    rw [hunpack]
    rfl
  refine ⟨?_, ?_⟩
  · rw [hfloat, exactValue_pack hpos hfilled hk]
    simp [Sign.apply]
  · rw [hneg, exactValue_pack hpos hfilled hk]
    simp [Sign.apply]

end ChatLedger.Decimal

namespace ChatLedger.Wire

open Decimal

/-- **An integer is read as the number it writes**, as long as 53 bits hold it. -/
theorem exactValue_numberOfInteger {n : Int} (h : n.natAbs < 2 ^ 53) :
    exactValue (numberOfInteger n) = some (n : ℚ) := by
  unfold numberOfInteger
  obtain hneg | rfl | hpos := Int.lt_trichotomy n 0
  · obtain ⟨-, hvalue⟩ := exactValue_toFloat (show 0 < n.natAbs by omega) h
    rw [if_pos hneg, hvalue]
    obtain ⟨m, rfl⟩ := Int.exists_eq_neg_ofNat (Int.le_of_lt hneg)
    simp
  · rfl
  · obtain ⟨m, rfl⟩ := Int.eq_ofNat_of_zero_le (Int.le_of_lt hpos)
    rw [if_neg (by omega), Int.toNat_natCast]
    exact (exactValue_toFloat (by omega) (by omega)).1

end ChatLedger.Wire
