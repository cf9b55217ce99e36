import Mathlib
import Scriptlet.Number.Binary64

/-!
# The parts of a double

The bits of a double are those of its sign, its exponent and its significand. All but the sign, as
a whole number, tell which doubles are finite, infinite or not a number, and a double is put
together again from its parts.
-/

namespace Scriptlet.Number

open Float.Model UnpackedFloat

variable {bits : Nat} {negative : Bool} {x : Float}

/-- Below the sign stands the exponent, and below the exponent the significand. -/
theorem toNat_unpackExponent (pattern : BitVec 64) :
    (@unpackExponent .binary64 pattern).toNat =
      pattern.toNat % signBit / binadeSize := by
  rw [unpackExponent_def, BitVec.extractLsb'_toNat, Nat.shiftRight_eq_div_pow]
  simp only [signBit, binadeSize]
  omega

/-- The bits of the significand are the lowest ones of a pattern. -/
theorem toNat_unpackMantissa (pattern : BitVec 64) :
    (@unpackMantissa .binary64 pattern).toNat =
      pattern.toNat % signBit % binadeSize := by
  rw [unpackMantissa_def, BitVec.extractLsb'_toNat, Nat.shiftRight_eq_div_pow]
  simp only [signBit, binadeSize]
  omega

/-- The exponent of what is infinite or not a number is the greatest. -/
theorem unpackExponent_eq_iff (pattern : BitVec 64) :
    @unpackExponent .binary64 pattern = -1#11 ↔
      infinityBits ≤ pattern.toNat % signBit := by
  have most : pattern.toNat % signBit < signBit := Nat.mod_lt _ (by decide)
  have last : (-1#11).toNat = 2047 := by decide
  rw [← BitVec.toNat_inj, toNat_unpackExponent, last]
  simp only [signBit, binadeSize, infinityBits] at most ⊢
  omega

/-- A pattern is not a number where its magnitude is above that of infinity. -/
theorem isNaNBits_iff (pattern : BitVec 64) :
    @isNaNBits .binary64 pattern ↔ infinityBits < pattern.toNat % signBit := by
  have most : pattern.toNat % signBit < signBit := Nat.mod_lt _ (by decide)
  rw [isNaNBits, decide_eq_true_eq, unpackExponent_eq_iff, ne_eq, ← BitVec.toNat_inj,
    toNat_unpackMantissa, BitVec.toNat_zero]
  simp only [signBit, binadeSize, infinityBits] at most ⊢
  omega

/-- What kind of number a pattern is. What is not finite has bits from those of infinity on. -/
theorem unpack_cases (pattern : BitVec 64) :
    (infinityBits < pattern.toNat % signBit ∧ unpack Format.binary64 pattern = .notANumber) ∨
      (pattern.toNat % signBit = infinityBits ∧
        ∃ sign, unpack Format.binary64 pattern = .infinity sign) ∨
      (pattern.toNat % signBit < infinityBits ∧ (unpack Format.binary64 pattern).isFinite) := by
  have greatest := unpackExponent_eq_iff pattern
  have noNumber := isNaNBits_iff pattern
  rw [isNaNBits, decide_eq_true_eq] at noNumber
  fun_cases unpack Format.binary64 pattern with
  | case1 _ _ _ sign last zero =>
      have reached := greatest.mp last
      have notAbove := mt noNumber.mpr fun above => above.2 zero
      exact .inr (.inl ⟨by omega, sign, rfl⟩)
  | case2 _ _ last some => exact .inl ⟨noNumber.mp ⟨last, some⟩, rfl⟩
  | case3 _ _ _ _ notLast | case4 _ _ _ _ _ notLast | case5 _ _ _ _ _ notLast =>
      exact .inr (.inr ⟨Nat.not_le.mp (mt greatest.mpr notLast), rfl⟩)

/-- What is finite is neither of the other kinds. -/
theorem others_of_isFinite {value : UnpackedFloat} (finite : value.isFinite) :
    value.isNaN = false ∧ value.isInf = false := by
  cases value with
  | notANumber | infinity => cases finite
  | _ => exact ⟨rfl, rfl⟩

/-- Whether a double is a number is seen from its magnitude. -/
theorem isNaN_eq (x : Float) : x.isNaN = decide (infinityBits < magnitudeBits x) := by
  change (unpack Format.binary64 x.toBits.toBitVec).isNaN =
    decide (infinityBits < x.toBits.toBitVec.toNat % signBit)
  rcases unpack_cases x.toBits.toBitVec with ⟨bits, value⟩ | ⟨bits, sign, value⟩ | ⟨bits, value⟩
  · rw [value, decide_eq_true bits]
    rfl
  · rw [value, decide_eq_false (by omega)]
    rfl
  · rw [(others_of_isFinite value).1, decide_eq_false (by omega)]

/-- Whether a double is infinite is seen from its magnitude. -/
theorem isInf_eq (x : Float) : x.isInf = decide (magnitudeBits x = infinityBits) := by
  change (unpack Format.binary64 x.toBits.toBitVec).isInf =
    decide (x.toBits.toBitVec.toNat % signBit = infinityBits)
  rcases unpack_cases x.toBits.toBitVec with ⟨bits, value⟩ | ⟨bits, sign, value⟩ | ⟨bits, value⟩
  · rw [value, decide_eq_false (by omega)]
    rfl
  · rw [value, decide_eq_true bits]
    rfl
  · rw [(others_of_isFinite value).2, decide_eq_false (by omega)]

/-- Whether a double is finite is seen from its magnitude. -/
theorem isFinite_eq (x : Float) : x.isFinite = decide (magnitudeBits x < infinityBits) := by
  change (unpack Format.binary64 x.toBits.toBitVec).isFinite =
    decide (x.toBits.toBitVec.toNat % signBit < infinityBits)
  rcases unpack_cases x.toBits.toBitVec with ⟨bits, value⟩ | ⟨bits, sign, value⟩ | ⟨bits, value⟩
  · rw [value, decide_eq_false (by omega)]
    rfl
  · rw [value, decide_eq_false (by omega)]
    rfl
  · rw [value, decide_eq_true bits]

/-- There is one double that is not a number. -/
theorem eq_of_isNaN (noNumber : x.isNaN) : x = Float.ofBits 0x7FF8000000000000 := by
  have only : Float.nan = Float.ofBits 0x7FF8000000000000 := by decide
  rw [Float.isNaN_eq_decide_eq_nan, decide_eq_true_eq] at noNumber
  rw [noNumber, only]

/-- A double is put together from its sign and its other bits. -/
theorem ofSignAndBits_magnitudeBits (x : Float) :
    ofSignAndBits (isNegative x) (magnitudeBits x) = x := by
  have most : x.toBits.toNat < 2 * signBit := x.toBits.toNat_lt
  have whole : (if isNegative x then signBit + magnitudeBits x else magnitudeBits x) =
      x.toBits.toNat := by
    simp only [isNegative, magnitudeBits, decide_eq_true_eq]
    split <;> simp only [signBit] at * <;> omega
  rw [ofSignAndBits, whole, UInt64.ofNat_toNat, Float.ofBits_toBits]

/-- A pattern without its sign is that of the absolute value. -/
theorem unpack_mod_signBit (pattern : BitVec 64) :
    unpack Format.binary64 (BitVec.ofNat 64 (pattern.toNat % signBit)) =
      (unpack Format.binary64 pattern).abs := by
  obtain ⟨unsigned, bits⟩ : ∃ unsigned : BitVec 64, unsigned.toNat = pattern.toNat % signBit := by
    refine ⟨BitVec.ofNat 64 (pattern.toNat % signBit), ?_⟩
    rw [BitVec.toNat_ofNat]
    exact Nat.mod_eq_of_lt (Nat.lt_trans (Nat.mod_lt _ (by decide)) (by decide))
  have exponent : @unpackExponent .binary64 unsigned = @unpackExponent .binary64 pattern := by
    rw [← BitVec.toNat_inj, toNat_unpackExponent, toNat_unpackExponent, bits, Nat.mod_mod]
  have mantissa : @unpackMantissa .binary64 unsigned = @unpackMantissa .binary64 pattern := by
    rw [← BitVec.toNat_inj, toNat_unpackMantissa, toNat_unpackMantissa, bits, Nat.mod_mod]
  have sign : @unpackSign .binary64 unsigned = 0#1 := by
    rw [← BitVec.toNat_inj, unpackSign_def, BitVec.extractLsb'_toNat, bits,
      Nat.shiftRight_eq_div_pow]
    simp only [signBit, BitVec.toNat_zero]
    omega
  rw [← bits, BitVec.ofNat_toNat, BitVec.setWidth_eq]
  simp only [UnpackedFloat.unpack, exponent, mantissa, sign]
  repeat' split
  all_goals rfl

/-- The bits without a sign are those of the absolute value. -/
theorem abs_eq (x : Float) : x.abs = ofSignAndBits false (magnitudeBits x) := by
  have value := unpack_mod_signBit x.toBits.toBitVec
  change Float.ofModel (Float.Model.pack (unpack Format.binary64 x.toBits.toBitVec).abs) =
    Float.ofModel (Float.Model.pack (unpack Format.binary64
      (BitVec.ofNat 64 (x.toBits.toBitVec.toNat % signBit))))
  rw [value]

end Scriptlet.Number
