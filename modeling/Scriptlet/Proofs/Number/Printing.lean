import Scriptlet.Number.Notation
import Scriptlet.Proofs.Number.Digits
import Scriptlet.Proofs.Number.Rounding

/-!
# What is printed reads back

The digits of a finite double are those of a decimal to which it is nearest, and the positional
form of a decimal is digits, perhaps with a fraction, that stand for the same number.
-/

namespace Scriptlet.Number

variable {pattern digits : Nat} {exponent : Int} {decimal : Decimal} {x : Magnitude}

/-! ## The digits of a double -/

/-- A decimal found on a grid reads back. -/
theorem Magnitude.readsBack_of_onGrid? (found : x.onGrid? pattern exponent = some decimal) :
    decimal.readsBack pattern := by
  unfold onGrid? at found
  dsimp only at found
  split at found
  · next below _ => cases found; exact below
  · next _ above => cases found; exact above
  · next below above =>
      cases found
      split
      · exact above
      · exact below
  · cases found

/-- The number that a decimal is. -/
def Decimal.value (decimal : Decimal) : ℚ :=
  decimal.digits * 10 ^ decimal.exponent

/-- The exact decimal of a magnitude is the same number. -/
theorem Magnitude.value_exactDecimal (x : Magnitude) : x.exactDecimal.value = x.value := by
  obtain ⟨significand, exponent⟩ := x
  obtain ⟨n, rfl | rfl⟩ := exponent.eq_nat_or_neg
  · simp [Decimal.value, value, exactDecimal, scale]
  · have ten : (10 : ℚ) ^ n = 2 ^ n * 5 ^ n := by rw [← mul_pow]; norm_num
    have five : (5 : ℚ) ^ n ≠ 0 := by positivity
    simp [Decimal.value, value, exactDecimal, scale, ten]
    field_simp

/-- All digits of a finite double read back. -/
theorem readsBack_exactDecimal (finite : pattern < infinityBits) :
    (Magnitude.ofBits pattern).exactDecimal.readsBack pattern := by
  have same := (Magnitude.ofBits pattern).value_exactDecimal
  rw [← Magnitude.numerator_div_denominator, Decimal.value, ← decimal_as_ratio,
    ratio_eq_iff (scale_pos (by decide)) (Magnitude.denominator_pos _)] at same
  rw [Decimal.readsBack, decide_eq_true_eq, nearestDecimal_eq_nearestRatio,
    nearestRatio_congr (scale_pos (by decide)) (Magnitude.denominator_pos _) same]
  exact Magnitude.nearestRatio_ofBits finite

/-- The shortest decimal of a finite double reads back as this double. -/
theorem readsBack_shortestDecimal (finite : pattern < infinityBits) :
    (shortestDecimal pattern).readsBack pattern := by
  unfold shortestDecimal
  dsimp only
  cases found : ((List.range 17).map _).findSome? ((Magnitude.ofBits pattern).onGrid? pattern) with
  | none => exact readsBack_exactDecimal finite
  | some decimal =>
      obtain ⟨exponent, -, onGrid⟩ := List.exists_of_findSome?_eq_some found
      exact Magnitude.readsBack_of_onGrid? onGrid

/-! ## Runs of digits -/

theorem isDigit_of_core {c : Char} (digit : c.isDigit) : isDigit c := by
  simp only [Char.isDigit, Bool.and_eq_true, decide_eq_true_eq] at digit
  simp only [isDigit, Bool.and_eq_true, decide_eq_true_eq]
  exact digit

theorem isDigit_of_mem_digitChars {n : Nat} {c : Char} (inside : c ∈ digitChars n) : isDigit c :=
  isDigit_of_core (Nat.isDigit_of_mem_toDigits (by decide) (by decide) inside)

/-- Digits behind digits stand for the first ones shifted, and the others. -/
theorem ofDigits_append (first second : List Char) :
    ofDigits (first ++ second) = ofDigits first * 10 ^ second.length + ofDigits second := by
  simp only [ofDigits_eq_foldl, List.foldl_append]
  rw [foldl_appendDigit, Nat.pow_eq]

/-- Zeros stand for nothing. -/
theorem ofDigits_replicate (n : Nat) : ofDigits (List.replicate n '0') = 0 := by
  rw [ofDigits_eq_foldl]
  induction n with
  | zero => rfl
  | succ n ih => rw [List.replicate_succ, List.foldl_cons]; exact ih

/-- The digits of a number spell it. -/
theorem ofDigits_digitChars (n : Nat) : ofDigits (digitChars n) = n := by
  have spelled := @Nat.ofDigitChars_toDigits 10 n (by decide) (by decide)
  have step : (fun total c => 10 * total + (c.toNat - '0'.toNat)) = appendDigit := by
    funext total c
    rw [appendDigit, digitValue, Nat.mul_comm]
  rw [Nat.ofDigitChars, step] at spelled
  rw [ofDigits_eq_foldl]
  exact spelled

/-- The digits of a fraction without the zeros at its end, and these zeros. -/
theorem exists_trailing_zeros (digits : List Char) :
    ∃ n, digits = (digits.reverse.dropWhile (· == '0')).reverse ++ List.replicate n '0' := by
  have parts := @List.takeWhile_append_dropWhile Char (· == '0') digits.reverse
  have zeros : digits.reverse.takeWhile (· == '0') =
      List.replicate (digits.reverse.takeWhile (· == '0')).length '0' := by
    rw [List.eq_replicate_iff]
    refine ⟨rfl, fun c inside => ?_⟩
    simpa using List.mem_takeWhile_imp inside
  refine ⟨(digits.reverse.takeWhile (· == '0')).length, ?_⟩
  rw [← List.reverse_replicate, ← zeros, ← List.reverse_append, parts, List.reverse_reverse]

/-! ## Positional form -/

/-- A number written with digits, and perhaps with a fraction. -/
structure Numeral where
  whole : List Char
  fraction : List Char
  nonempty : whole ≠ []
  digits : ∀ d ∈ whole, isDigit d
  behind : ∀ d ∈ fraction, isDigit d

namespace Numeral

/-- The characters of a numeral, with a point in front of the fraction. -/
def chars (numeral : Numeral) : List Char :=
  numeral.whole ++ pointed numeral.fraction

/-- The bits of the double nearest to a numeral. -/
def bits (numeral : Numeral) : Nat :=
  ofParts numeral.whole numeral.fraction 0

/-- A numeral that is the same number as a decimal has the bits nearest to this decimal. -/
theorem bits_eq {numeral : Numeral}
    (same : (ofDigits (numeral.whole ++ numeral.fraction) : ℚ) =
      digits * 10 ^ exponent * 10 ^ numeral.fraction.length) :
    numeral.bits = nearestDecimal digits exponent := by
  apply nearestDecimal_congr
  have power : (10 : ℚ) ^ numeral.fraction.length ≠ 0 := by positivity
  rw [same, Int.zero_sub, zpow_neg, zpow_natCast, mul_inv_cancel_right₀ power]

end Numeral

/-- A point is written only in front of a fraction. -/
theorem pointed_eq (whole fraction : List Char) :
    (if fraction.isEmpty then whole else whole ++ '.' :: fraction) = whole ++ pointed fraction := by
  cases fraction <;> simp [pointed]

/-- Zeros at the end of a fraction only shift the number that the digits spell. -/
theorem ofDigits_append_zeros (digits : List Char) (n : Nat) :
    ofDigits (digits ++ List.replicate n '0') = ofDigits digits * 10 ^ n := by
  rw [ofDigits_append, ofDigits_replicate, List.length_replicate, Nat.add_zero]

/-- A whole number with zeros behind its digits. -/
theorem exists_numeral_of_zeros (number zeros : Nat) :
    ∃ numeral : Numeral, numeral.chars = digitChars number ++ List.replicate zeros '0' ∧
      numeral.bits = nearestDecimal number zeros := by
  have some : digitChars number ++ List.replicate zeros '0' ≠ [] :=
    List.append_ne_nil_of_left_ne_nil Nat.toDigits_ne_nil _
  have digits : ∀ d ∈ digitChars number ++ List.replicate zeros '0', isDigit d := by
    intro d inside
    rcases List.mem_append.mp inside with inside | inside
    · exact isDigit_of_mem_digitChars inside
    · rw [List.eq_of_mem_replicate inside]
      decide
  refine ⟨⟨_, [], some, digits, by simp⟩, ?_, ?_⟩
  · rw [Numeral.chars, pointed, List.append_nil]
  · apply Numeral.bits_eq
    rw [List.append_nil, ofDigits_append_zeros, ofDigits_digitChars]
    simp

/-- A run of digits with a point so many places from its end, and without zeros at the end. -/
theorem exists_numeral_of_places {run : List Char} {places : Nat} (long : places < run.length)
    (digits : ∀ d ∈ run, isDigit d) :
    ∃ numeral : Numeral, numeral.chars = run.take (run.length - places) ++
        pointed ((run.drop (run.length - places)).reverse.dropWhile (· == '0')).reverse ∧
      numeral.bits = nearestDecimal (ofDigits run) (-places) := by
  have parts : run.take (run.length - places) ++ run.drop (run.length - places) = run :=
    List.take_append_drop ..
  have length : (run.drop (run.length - places)).length = places := by
    rw [List.length_drop]
    omega
  have some : run.take (run.length - places) ≠ [] := by
    rw [← List.length_pos_iff, List.length_take]
    omega
  have inFront : ∀ d ∈ run.take (run.length - places), isDigit d :=
    fun d inside => digits d (List.mem_of_mem_take inside)
  have behind : ∀ d ∈ run.drop (run.length - places), isDigit d :=
    fun d inside => digits d (List.mem_of_mem_drop inside)
  obtain ⟨zeros, trimmed⟩ := exists_trailing_zeros (run.drop (run.length - places))
  generalize run.take (run.length - places) = whole at parts some inFront ⊢
  generalize ((run.drop (run.length - places)).reverse.dropWhile (· == '0')).reverse = fraction
    at trimmed ⊢
  rw [trimmed] at parts length behind
  have behindToo (d : Char) (inside : d ∈ fraction) := behind d (List.mem_append_left _ inside)
  refine ⟨⟨whole, fraction, some, inFront, behindToo⟩, rfl, Numeral.bits_eq ?_⟩
  rw [List.length_append, List.length_replicate] at length
  rw [← parts, ← List.append_assoc, ofDigits_append_zeros, ← length, zpow_neg, zpow_natCast,
    pow_add]
  push_cast
  field_simp

/-- **The positional form of a decimal is a numeral for the same number.** -/
theorem Decimal.exists_numeral (decimal : Decimal) :
    ∃ numeral : Numeral, numeral.chars = decimal.positional ∧
      numeral.bits = nearestDecimal decimal.digits decimal.exponent := by
  obtain ⟨number, exponent⟩ := decimal
  unfold positional
  dsimp only
  split
  · next whole =>
      obtain ⟨zeros, rfl⟩ := Int.eq_ofNat_of_zero_le whole
      exact exists_numeral_of_zeros number zeros
  · next negative =>
      obtain ⟨places, rfl⟩ : ∃ places : Nat, exponent = -places := ⟨(-exponent).toNat, by omega⟩
      rw [Int.neg_neg, Int.toNat_natCast, pointed_eq]
      have spelled : ofDigits (List.replicate (places + 1 - (digitChars number).length) '0' ++
          digitChars number) = number := by
        rw [ofDigits_append, ofDigits_replicate, ofDigits_digitChars, Nat.zero_mul, Nat.zero_add]
      have digits : ∀ d ∈ List.replicate (places + 1 - (digitChars number).length) '0' ++
          digitChars number, isDigit d := by
        intro d inside
        rcases List.mem_append.mp inside with inside | inside
        · rw [List.eq_of_mem_replicate inside]
          decide
        · exact isDigit_of_mem_digitChars inside
      have long : places < (List.replicate (places + 1 - (digitChars number).length) '0' ++
          digitChars number).length := by
        rw [List.length_append, List.length_replicate]
        omega
      have found := exists_numeral_of_places long digits
      rw [spelled] at found
      exact found

end Scriptlet.Number
