import Mathlib.Algebra.Order.Field.Power
import Mathlib.Algebra.Order.Floor.Semifield
import Mathlib.Data.Int.Log
import Mathlib.Data.Rat.Floor
import Mathlib.Tactic.Linarith
import Mathlib.Tactic.NormNum
import Mathlib.Tactic.Positivity
import Scriptlet.Number.Binary64

/-!
# Rounding depends on the number alone

The double nearest to a ratio is found from its numerator and denominator, and the one nearest to a
decimal from its digits and exponent. What is found depends only on the number that these stand
for, and for the number that is a double it is this double. The shortcuts for decimals far outside
the range of the doubles agree with the exact computation.
-/

namespace Scriptlet.Number

variable {base a b c d digits digits' significand bits : Nat} {exponent exponent' e : Int}

/-! ## Powers on both sides of a ratio -/

/-- A scale of a positive base is positive. -/
theorem scale_pos (positive : 0 < base) : 0 < scale base e :=
  Nat.pow_pos positive

/-- The power that multiplies and the one that divides are one power together. -/
theorem scale_div_scale (base : Nat) (e : Int) :
    (scale base e : ℚ) / scale base (-e) = (base : ℚ) ^ e := by
  obtain ⟨n, rfl | rfl⟩ := e.eq_nat_or_neg
  · simp [scale]
  · simp [scale]

/-- A ratio in units of `2 ^ e`. -/
theorem ratio_in_units (a b : Nat) (e : Int) :
    ((a * scale 2 (-e) : Nat) : ℚ) / (b * scale 2 e : Nat) = a / b / 2 ^ e := by
  have unit := scale_div_scale 2 e
  rw [Nat.cast_ofNat] at unit
  rw [← unit]
  push_cast
  rw [div_div_div_eq, mul_comm]

/-- Two ratios are equal where their cross products are. -/
theorem ratio_eq_iff (positive : 0 < b) (positive' : 0 < d) :
    (a : ℚ) / b = c / d ↔ a * d = c * b := by
  rw [div_eq_div_iff (by positivity) (by positivity)]
  exact_mod_cast Iff.rfl

/-- A ratio of positive numbers is positive. -/
theorem ratio_pos (positive : 0 < a) (positive' : 0 < b) : 0 < (a : ℚ) / b :=
  div_pos (by exact_mod_cast positive) (by exact_mod_cast positive')

/-! ## The order of magnitude -/

/-- The order of magnitude of a ratio is the power of two at or below it. -/
theorem log_eq_iff {q : ℚ} (positive : 0 < q) :
    Int.log 2 q = e ↔ 2 ^ e ≤ q ∧ q < 2 ^ (e + 1) := by
  have least := Int.zpow_le_iff_le_log (R := ℚ) (b := 2) (by decide) (x := e) positive
  have greatest := Int.lt_zpow_iff_log_lt (R := ℚ) (b := 2) (by decide) (x := e + 1) positive
  rw [Nat.cast_ofNat] at least greatest
  rw [least, greatest]
  omega

/-- Two whole numbers bound their ratio by their orders of magnitude. -/
theorem ratio_bounds (positive : 0 < a) (positive' : 0 < b) :
    (2 : ℚ) ^ ((a.log2 : Int) - b.log2 - 1) < a / b ∧
      (a : ℚ) / b < 2 ^ ((a.log2 : Int) - b.log2 + 1) := by
  have two : (2 : ℚ) ≠ 0 := by norm_num
  have below : (2 : ℚ) ^ (a.log2 : Int) ≤ a := by
    exact_mod_cast Nat.log2_self_le (Nat.ne_of_gt positive)
  have above : (a : ℚ) < 2 ^ ((a.log2 : Int) + 1) := by exact_mod_cast Nat.lt_log2_self
  have below' : (2 : ℚ) ^ (b.log2 : Int) ≤ b := by
    exact_mod_cast Nat.log2_self_le (Nat.ne_of_gt positive')
  have above' : (b : ℚ) < 2 ^ ((b.log2 : Int) + 1) := by exact_mod_cast Nat.lt_log2_self
  have denominator : (0 : ℚ) < b := by exact_mod_cast positive'
  constructor
  · rw [lt_div_iff₀ denominator]
    calc (2 : ℚ) ^ ((a.log2 : Int) - b.log2 - 1) * b
        < 2 ^ ((a.log2 : Int) - b.log2 - 1) * 2 ^ ((b.log2 : Int) + 1) := by gcongr
      _ = 2 ^ (a.log2 : Int) := by rw [← zpow_add₀ two]; congr 1; omega
      _ ≤ a := below
  · rw [div_lt_iff₀ denominator]
    calc (a : ℚ) < 2 ^ ((a.log2 : Int) + 1) := above
      _ = 2 ^ ((a.log2 : Int) - b.log2 + 1) * 2 ^ (b.log2 : Int) := by
          rw [← zpow_add₀ two]; congr 1; omega
      _ ≤ 2 ^ ((a.log2 : Int) - b.log2 + 1) * b := by gcongr

/-- The order of magnitude that is computed for a ratio is that of the number that it is. -/
theorem ratioLog2_eq_log (positive : 0 < a) (positive' : 0 < b) :
    ratioLog2 a b = Int.log 2 ((a : ℚ) / b) := by
  obtain ⟨below, above⟩ := ratio_bounds positive positive'
  have reached : b * scale 2 ((a.log2 : Int) - b.log2) ≤ a * scale 2 (-((a.log2 : Int) - b.log2)) ↔
      (2 : ℚ) ^ ((a.log2 : Int) - b.log2) ≤ a / b := by
    generalize (a.log2 : Int) - b.log2 = e
    have unit : (0 : ℚ) < (b * scale 2 e : Nat) := by
      exact_mod_cast Nat.mul_pos positive' (scale_pos (by decide))
    have power : (0 : ℚ) < 2 ^ e := by positivity
    rw [← one_le_div₀ power, ← ratio_in_units, one_le_div₀ unit, Nat.cast_le]
  symm
  rw [log_eq_iff (ratio_pos positive positive')]
  unfold ratioLog2
  dsimp only
  split
  · next enough => exact ⟨reached.mp enough, above⟩
  · next short =>
      refine ⟨below.le, ?_⟩
      rw [Int.sub_add_cancel]
      exact lt_of_not_ge (short ∘ reached.mpr)

/-! ## Rounding to a whole number -/

/-- Rounding does not depend on a common factor. -/
theorem roundHalfEven_mul (a b : Nat) (positive : 0 < c) :
    roundHalfEven (a * c) (b * c) = roundHalfEven a b := by
  have middle : compare (2 * (a % b * c)) (b * c) = compare (2 * (a % b)) b := by
    rw [← Nat.mul_assoc]
    rcases Nat.lt_trichotomy (2 * (a % b)) b with less | same | more
    · have less' := Nat.mul_lt_mul_of_pos_right less positive
      rw [Nat.compare_eq_lt.mpr less, Nat.compare_eq_lt.mpr less']
    · rw [same, Nat.compare_eq_eq.mpr rfl, Nat.compare_eq_eq.mpr rfl]
    · have more' := Nat.mul_lt_mul_of_pos_right more positive
      rw [Nat.compare_eq_gt.mpr more, Nat.compare_eq_gt.mpr more']
  rw [roundHalfEven, Nat.mul_div_mul_right _ _ positive, Nat.mul_mod_mul_right, middle]
  rfl

/-- What a ratio is rounded to depends only on its value. -/
theorem roundHalfEven_congr (positive : 0 < b) (positive' : 0 < d) (same : a * d = c * b) :
    roundHalfEven a b = roundHalfEven c d := by
  rw [← roundHalfEven_mul a b positive', same, Nat.mul_comm b, roundHalfEven_mul c d positive]

/-- Rounding goes no lower than the whole part. -/
theorem div_le_roundHalfEven (a b : Nat) : a / b ≤ roundHalfEven a b := by
  unfold roundHalfEven
  dsimp only
  split <;> omega

/-- A whole number is rounded to itself. -/
theorem roundHalfEven_of_mul (positive : 0 < b) : roundHalfEven (a * b) b = a := by
  rw [roundHalfEven, Nat.mul_div_cancel _ positive, Nat.mul_mod_left,
    Nat.compare_eq_lt.mpr (by omega)]

/-- Less than half is rounded to zero. -/
theorem roundHalfEven_eq_zero (small : 2 * a < b) : roundHalfEven a b = 0 := by
  rw [roundHalfEven, Nat.mod_eq_of_lt (by omega), Nat.compare_eq_lt.mpr small,
    Nat.div_eq_of_lt (by omega)]

/-! ## The nearest double -/

/-- **The double nearest to a ratio depends only on its value.** -/
theorem nearestRatio_congr (positive : 0 < b) (positive' : 0 < d) (same : a * d = c * b) :
    nearestRatio a b = nearestRatio c d := by
  by_cases zero : a = 0
  · have zero' : c = 0 := by
      rw [zero, Nat.zero_mul] at same
      exact (Nat.mul_eq_zero.mp same.symm).resolve_right (Nat.ne_of_gt positive)
    rw [zero, zero', nearestRatio, nearestRatio, if_pos rfl, if_pos rfl]
  · have positiveA : 0 < a := Nat.pos_of_ne_zero zero
    have positiveC : 0 < c := Nat.pos_of_mul_pos_right (same ▸ Nat.mul_pos positiveA positive')
    have magnitude : ratioLog2 a b = ratioLog2 c d := by
      rw [ratioLog2_eq_log positiveA positive, ratioLog2_eq_log positiveC positive',
        (ratio_eq_iff positive positive').mpr same]
    rw [nearestRatio, nearestRatio, if_neg zero, if_neg (Nat.ne_of_gt positiveC), magnitude]
    dsimp only
    generalize max (ratioLog2 c d - 52) (-1074) = unit
    have rounded : roundHalfEven (a * scale 2 (-unit)) (b * scale 2 unit) =
        roundHalfEven (c * scale 2 (-unit)) (d * scale 2 unit) := by
      apply roundHalfEven_congr
      · exact Nat.mul_pos positive (scale_pos (by decide))
      · exact Nat.mul_pos positive' (scale_pos (by decide))
      · rw [Nat.mul_mul_mul_comm, same, Nat.mul_comm (scale 2 (-unit)), Nat.mul_mul_mul_comm]
        ac_rfl
    rw [rounded]

/-! ## Doubles are nearest to themselves -/

namespace Magnitude

variable {x : Magnitude}

/-- The number that a magnitude is. -/
def value (x : Magnitude) : ℚ :=
  x.significand * 2 ^ x.exponent

/-- The numerator and the denominator of a magnitude are those of its value. -/
theorem numerator_div_denominator (x : Magnitude) :
    (x.numerator : ℚ) / x.denominator = x.value := by
  have unit := scale_div_scale 2 x.exponent
  rw [Nat.cast_ofNat] at unit
  rw [value, ← unit, numerator, denominator, Nat.cast_mul, mul_div_assoc]

/-- The denominator of a magnitude is positive. -/
theorem denominator_pos (x : Magnitude) : 0 < x.denominator :=
  scale_pos (by decide)

/-- The numerator is positive where the significand is. -/
theorem numerator_pos (positive : 0 < x.significand) : 0 < x.numerator :=
  Nat.mul_pos positive (scale_pos (by decide))

/-- The order of magnitude of a double is that of its significand, moved by its exponent. -/
theorem log_value (positive : 0 < x.significand) :
    Int.log 2 x.value = x.significand.log2 + x.exponent := by
  have power : (0 : ℚ) < 2 ^ x.exponent := by positivity
  have significand : (0 : ℚ) < x.significand := by exact_mod_cast positive
  have below : (2 : ℚ) ^ (x.significand.log2 : Int) ≤ x.significand := by
    exact_mod_cast Nat.log2_self_le (Nat.ne_of_gt positive)
  have above : (x.significand : ℚ) < 2 ^ ((x.significand.log2 : Int) + 1) := by
    exact_mod_cast Nat.lt_log2_self
  unfold value
  rw [log_eq_iff (mul_pos significand power), Int.add_right_comm, zpow_add₀ (by norm_num),
    zpow_add₀ (by norm_num)]
  exact ⟨mul_le_mul_of_nonneg_right below power.le, mul_lt_mul_of_pos_right above power⟩

/-- The form in which a finite double is a magnitude: its exponent is the least one where it has a
significand of fewer bits. -/
structure Canonical (x : Magnitude) : Prop where
  bounded : x.significand < 2 * binadeSize
  least : -1074 ≤ x.exponent
  full : binadeSize ≤ x.significand ∨ x.exponent = -1074

/-- A canonical magnitude is a whole number of the units in which a number of its size is
rounded. -/
theorem Canonical.unit (canonical : x.Canonical) (positive : 0 < x.significand) :
    max ((x.significand.log2 : Int) + x.exponent - 52) (-1074) = x.exponent := by
  obtain ⟨bounded, least, full⟩ := canonical
  have most : x.significand.log2 < 53 := (Nat.log2_lt (Nat.ne_of_gt positive)).mpr bounded
  rcases full with full | lowest
  · have enough : 52 ≤ x.significand.log2 := (Nat.le_log2 (Nat.ne_of_gt positive)).mpr full
    omega
  · by_cases short : x.significand.log2 < 52
    · omega
    · omega

/-- **A canonical magnitude is nearest to itself**, or infinite where its exponent is too large. -/
theorem Canonical.nearestRatio (canonical : x.Canonical) (positive : 0 < x.significand) :
    nearestRatio x.numerator x.denominator =
      min ((x.exponent + 1074).toNat * binadeSize + x.significand) infinityBits := by
  have magnitude : ratioLog2 x.numerator x.denominator = x.significand.log2 + x.exponent := by
    rw [ratioLog2_eq_log (numerator_pos positive) x.denominator_pos, numerator_div_denominator,
      log_value positive]
  have whole : roundHalfEven (x.numerator * scale 2 (-x.exponent))
      (x.denominator * scale 2 x.exponent) = x.significand := by
    rw [numerator, denominator, Nat.mul_assoc, Nat.mul_comm (scale 2 x.exponent)]
    exact roundHalfEven_of_mul (Nat.mul_pos (scale_pos (by decide)) (scale_pos (by decide)))
  rw [Number.nearestRatio, if_neg (Nat.ne_of_gt (numerator_pos positive)), magnitude]
  dsimp only
  rw [canonical.unit positive, whole]

/-- The magnitude of a double is canonical. -/
theorem canonical_ofBits (bits : Nat) : (ofBits bits).Canonical := by
  have fraction : bits % binadeSize < binadeSize := Nat.mod_lt _ (by decide)
  unfold ofBits
  dsimp only
  generalize bits / binadeSize = biased, bits % binadeSize = rest at *
  split
  · next zero => exact ⟨Nat.lt_of_lt_of_le fraction (by decide), Int.le_refl _, .inr rfl⟩
  · next positive =>
      refine ⟨?_, ?_, .inl (Nat.le_add_right _ _)⟩
      · rw [Nat.two_mul]
        exact Nat.add_lt_add_left fraction _
      · dsimp only [Int.ofNat_eq_natCast]
        omega

/-- Bit patterns count the doubles below. -/
theorem ofBits_index (bits : Nat) :
    ((ofBits bits).exponent + 1074).toNat * binadeSize + (ofBits bits).significand = bits := by
  have parts := Nat.div_add_mod' bits binadeSize
  unfold ofBits
  dsimp only
  split
  · next zero =>
      rw [zero] at parts
      simpa using parts
  · next positive =>
      obtain ⟨below, next⟩ := Nat.exists_eq_succ_of_ne_zero positive
      rw [next] at parts ⊢
      have index : (Int.ofNat below.succ - 1075 + 1074).toNat = below := by
        rw [Int.ofNat_eq_natCast]
        omega
      dsimp only
      rw [index, ← Nat.add_assoc, ← Nat.succ_mul]
      exact parts

/-- A double other than zero has a positive significand. -/
theorem significand_pos (positive : bits ≠ 0) : 0 < (ofBits bits).significand := by
  have index := ofBits_index bits
  have canonical := canonical_ofBits bits
  rcases canonical.full with full | lowest
  · exact Nat.lt_of_lt_of_le (by decide) full
  · rw [lowest] at index
    simp only [Int.reduceAdd, Int.reduceToNat, Nat.zero_mul, Nat.zero_add] at index
    omega

/-- **A finite double is the one nearest to itself.** -/
theorem nearestRatio_ofBits (finite : bits < infinityBits) :
    Number.nearestRatio (ofBits bits).numerator (ofBits bits).denominator = bits := by
  by_cases zero : bits = 0
  · rw [zero]
    decide
  · rw [(canonical_ofBits bits).nearestRatio (significand_pos zero), ofBits_index]
    exact Nat.min_eq_left finite.le

end Magnitude

/-! ## Decimals -/

/-- A decimal as a ratio. -/
theorem decimal_as_ratio (digits : Nat) (exponent : Int) :
    ((digits * scale 10 exponent : Nat) : ℚ) / (scale 10 (-exponent) : Nat) =
      digits * 10 ^ exponent := by
  have power := scale_div_scale 10 exponent
  rw [Nat.cast_ofNat] at power
  rw [← power, Nat.cast_mul, mul_div_assoc]

/-- A quotient is not below a whole number where the ratio is not. -/
theorem le_quotient_iff (positive : 0 < b) : c ≤ a / b ↔ (c : ℚ) ≤ a / b := by
  rw [Nat.le_div_iff_mul_le positive, le_div_iff₀ (by exact_mod_cast positive)]
  exact_mod_cast Iff.rfl

/-- What is beyond the greatest double is rounded to infinity. -/
theorem nearestRatio_of_large (positive : 0 < a) (positive' : 0 < b)
    (large : 1024 ≤ ratioLog2 a b) : nearestRatio a b = infinityBits := by
  have reached : (2 : ℚ) ^ ratioLog2 a b ≤ a / b := by
    rw [ratioLog2_eq_log positive positive']
    exact_mod_cast Int.zpow_log_le_self (by decide) (ratio_pos positive positive')
  obtain ⟨e, below⟩ : ∃ e, ratioLog2 a b = e + 52 := ⟨ratioLog2 a b - 52, by omega⟩
  rw [below] at large reached
  have unit : max (ratioLog2 a b - 52) (-1074) = e := by omega
  have full : binadeSize ≤ a * scale 2 (-e) / (b * scale 2 e) := by
    have power : (0 : ℚ) < 2 ^ e := by positivity
    rw [le_quotient_iff (Nat.mul_pos positive' (scale_pos (by decide))), ratio_in_units,
      le_div_iff₀ power]
    calc (binadeSize : ℚ) * 2 ^ e = 2 ^ (e + 52) := by
          rw [zpow_add₀ (by norm_num), mul_comm]
          norm_num [binadeSize]
      _ ≤ a / b := reached
  have rounded := div_le_roundHalfEven (a * scale 2 (-e)) (b * scale 2 e)
  have index : 2046 * binadeSize ≤ (e + 1074).toNat * binadeSize :=
    Nat.mul_le_mul_right _ (by omega)
  rw [nearestRatio, if_neg (Nat.ne_of_gt positive)]
  dsimp only
  rw [unit]
  apply Nat.min_eq_right
  calc infinityBits = 2046 * binadeSize + binadeSize := by decide
    _ ≤ _ := Nat.add_le_add index (full.trans rounded)

/-- What is below half of the least double is rounded to zero. -/
theorem nearestRatio_of_small (positive : 0 < b) (small : (a : ℚ) / b < 2 ^ (-1075 : Int)) :
    nearestRatio a b = 0 := by
  unfold nearestRatio
  split
  · rfl
  · next some =>
      have positive' : 0 < a := Nat.pos_of_ne_zero some
      have magnitude : ratioLog2 a b < -1075 := by
        rw [ratioLog2_eq_log positive' positive]
        apply (Int.lt_zpow_iff_log_lt (by decide) (ratio_pos positive' positive)).mp
        exact_mod_cast small
      have unit : max (ratioLog2 a b - 52) (-1074) = -1074 := by omega
      have least : 2 * (a * scale 2 (-(-1074))) < b * scale 2 (-1074) := by
        have power : (0 : ℚ) < 2 ^ (-1074 : Int) := by positivity
        have denominator : (0 : ℚ) < (b * scale 2 (-1074) : Nat) := by
          exact_mod_cast Nat.mul_pos positive (scale_pos (by decide))
        have half : (a : ℚ) / b / 2 ^ (-1074 : Int) < 1 / 2 := by
          rw [div_lt_iff₀ power]
          calc (a : ℚ) / b < 2 ^ (-1075 : Int) := small
            _ = 1 / 2 * 2 ^ (-1074 : Int) := by
                rw [show (-1075 : Int) = -1 + -1074 from rfl, zpow_add₀ (by norm_num)]
                norm_num
        rw [← ratio_in_units, div_lt_iff₀ denominator] at half
        generalize a * scale 2 (-(-1074)) = left, b * scale 2 (-1074) = right at half
        have doubled : (2 : ℚ) * left < right := by linarith
        exact_mod_cast doubled
      dsimp only
      rw [unit, roundHalfEven_eq_zero least]
      decide

/-- With a great exponent, a decimal is above all doubles. -/
theorem two_pow_le_decimal {digits : Nat} {exponent : Int} (positive : 0 < digits)
    (large : 400 < exponent) : (2 : ℚ) ^ (1024 : Int) ≤ digits * 10 ^ exponent := by
  calc (2 : ℚ) ^ (1024 : Int) ≤ 2 ^ (3 * exponent) := by gcongr <;> [norm_num; omega]
    _ = 8 ^ exponent := by rw [zpow_mul]; norm_num
    _ ≤ 10 ^ exponent := zpow_le_zpow_left₀ (by omega) (by norm_num) (by norm_num)
    _ ≤ digits * 10 ^ exponent := le_mul_of_one_le_left (by positivity) (by exact_mod_cast positive)

/-- With an exponent that is small for the number of its digits, a decimal is below half of the
least double. -/
theorem decimal_lt_two_pow {digits : Nat} {exponent : Int}
    (small : exponent < -400 - digits.log2) :
    (digits : ℚ) * 10 ^ exponent < 2 ^ (-1075 : Int) := by
  have above : (digits : ℚ) < 2 ^ ((digits.log2 : Int) + 1) := by
    exact_mod_cast Nat.lt_log2_self
  have tiny : (10 : ℚ) ^ exponent ≤ 2 ^ (3 * exponent) := by
    obtain ⟨places, rfl⟩ : ∃ places : Nat, exponent = -places := ⟨(-exponent).toNat, by omega⟩
    rw [zpow_mul, zpow_neg, zpow_neg, zpow_natCast, zpow_natCast]
    gcongr
    norm_num
  calc (digits : ℚ) * 10 ^ exponent
      < 2 ^ ((digits.log2 : Int) + 1) * 10 ^ exponent := by gcongr
    _ ≤ 2 ^ ((digits.log2 : Int) + 1) * 2 ^ (3 * exponent) := by gcongr
    _ = 2 ^ ((digits.log2 : Int) + 1 + 3 * exponent) := (zpow_add₀ (by norm_num) _ _).symm
    _ ≤ 2 ^ (-1075 : Int) := by gcongr <;> [norm_num; omega]

/-- **The shortcuts of the decimals agree with the ratio.** -/
theorem nearestDecimal_eq_nearestRatio (digits : Nat) (exponent : Int) :
    nearestDecimal digits exponent =
      nearestRatio (digits * scale 10 exponent) (scale 10 (-exponent)) := by
  have denominator : 0 < scale 10 (-exponent) := scale_pos (by decide)
  by_cases zero : digits = 0
  · simp only [zero, Nat.zero_mul, nearestDecimal, nearestRatio, ↓reduceIte]
  have positive : 0 < digits := Nat.pos_of_ne_zero zero
  have numerator : 0 < digits * scale 10 exponent := Nat.mul_pos positive (scale_pos (by decide))
  rw [nearestDecimal, if_neg zero]
  split
  · next large =>
      symm
      apply nearestRatio_of_large numerator denominator
      rw [ratioLog2_eq_log numerator denominator]
      apply (Int.zpow_le_iff_le_log (by decide) (ratio_pos numerator denominator)).mp
      rw [decimal_as_ratio]
      exact two_pow_le_decimal positive large
  split
  · next small =>
      symm
      apply nearestRatio_of_small denominator
      rw [decimal_as_ratio]
      exact decimal_lt_two_pow small
  · rfl

/-- **The double nearest to a decimal depends only on the number that the decimal is.** -/
theorem nearestDecimal_congr
    (same : (digits : ℚ) * 10 ^ exponent = digits' * 10 ^ exponent') :
    nearestDecimal digits exponent = nearestDecimal digits' exponent' := by
  have denominator : 0 < scale 10 (-exponent) := scale_pos (by decide)
  have denominator' : 0 < scale 10 (-exponent') := scale_pos (by decide)
  rw [nearestDecimal_eq_nearestRatio, nearestDecimal_eq_nearestRatio]
  apply nearestRatio_congr denominator denominator'
  rw [← ratio_eq_iff denominator denominator', decimal_as_ratio, decimal_as_ratio, same]

end Scriptlet.Number
