import Mathlib.Data.List.TakeWhile
import Scriptlet.Number.Reading

/-!
# Numbers written with digits

A number without a sign and an exponent is digits, and perhaps a point with digits behind it. Such
characters are read in full, and as no word that stands for a number.
-/

namespace Scriptlet

/-- A run of characters up to one that is none of them. -/
theorem takeWhile_run {test : Char → Bool} {run : List Char} {stop : Char}
    (inside : ∀ d ∈ run, test d) (stops : test stop = false) (rest : List Char) :
    (run ++ stop :: rest).takeWhile test = run := by
  rw [List.takeWhile_append_of_pos inside, List.takeWhile_cons_of_neg (by simp [stops]),
    List.append_nil]

/-- Dropping a run drops it up to the first character that is none of it. -/
theorem dropWhile_run {test : Char → Bool} {run : List Char} {stop : Char}
    (inside : ∀ d ∈ run, test d) (stops : test stop = false) (rest : List Char) :
    (run ++ stop :: rest).dropWhile test = stop :: rest := by
  rw [List.dropWhile_append_of_pos inside, List.dropWhile_cons_of_neg (by simp [stops])]

/-- A character that a run does not hold is none of its characters. -/
theorem bne_of_not_mem {stop : Char} {run : List Char} (absent : stop ∉ run) :
    ∀ d ∈ run, d != stop := fun _ inside => bne_iff_ne.mpr (ne_of_mem_of_not_mem inside absent)

namespace Number

variable {c : Char} {whole fraction : List Char}

/-- Digits with a point in front of them, or nothing where there are none. -/
def pointed : List Char → List Char
  | [] => []
  | digit :: digits => '.' :: digit :: digits

/-- A longer fraction is written with more characters. -/
theorem length_pointed_le (longer : fraction.length ≤ whole.length) :
    (pointed fraction).length ≤ (pointed whole).length := by
  cases fraction with
  | nil => exact Nat.zero_le _
  | cons digit digits =>
      cases whole with
      | nil => cases longer
      | cons d ds => exact Nat.succ_le_succ longer

/-- A digit is no sign, and none of the letters with which a number can begin. -/
theorem ne_of_isDigit (digit : isDigit c) : c ≠ '+' ∧ c ≠ '-' ∧ c ≠ 'i' ∧ c ≠ 'n' := by
  refine ⟨?_, ?_, ?_, ?_⟩ <;> (rintro rfl; exact absurd digit (by decide))

/-- Digits have no case. -/
theorem lowerAscii_of_isDigit (digit : isDigit c) : lowerAscii c = c := by
  simp only [isDigit, Bool.and_eq_true, decide_eq_true_eq, Char.le_def,
    UInt32.le_iff_toNat_le] at digit
  have most : c.val.toNat ≤ 57 := digit.2
  have small : ¬ ('A' ≤ c && c ≤ 'Z') := by
    simp only [Bool.and_eq_true, decide_eq_true_eq, Char.le_def, UInt32.le_iff_toNat_le]
    rintro ⟨least, -⟩
    have above : 65 ≤ c.val.toNat := least
    omega
  rw [lowerAscii, if_neg small]

/-- A point and digits behind it are split off as the fraction, up to the end. -/
theorem splitFraction_pointed (behind : ∀ d ∈ fraction, isDigit d) :
    splitFraction (pointed fraction) = (fraction, []) := by
  cases fraction with
  | nil => rfl
  | cons digit digits =>
      rw [pointed, splitFraction, List.takeWhile_eq_self_iff.mpr behind,
        List.dropWhile_eq_nil_iff.mpr behind]

/-- The digits in front of a point, or of the end, and the point with what stands behind it. -/
theorem takeWhile_pointed (digits : ∀ d ∈ whole, isDigit d) :
    (whole ++ pointed fraction).takeWhile isDigit = whole ∧
      (whole ++ pointed fraction).dropWhile isDigit = pointed fraction := by
  cases fraction with
  | nil =>
      rw [pointed, List.append_nil]
      exact ⟨List.takeWhile_eq_self_iff.mpr digits, List.dropWhile_eq_nil_iff.mpr digits⟩
  | cons digit rest =>
      exact ⟨takeWhile_run digits (by decide) _, dropWhile_run digits (by decide) _⟩

/-- **Digits are read in full**, with a fraction or without. -/
theorem decimalBits?_digits (some : whole ≠ []) (digits : ∀ d ∈ whole, isDigit d)
    (behind : ∀ d ∈ fraction, isDigit d) :
    decimalBits? (whole ++ pointed fraction) = .some (ofParts whole fraction 0) := by
  obtain ⟨taken, left⟩ := @takeWhile_pointed whole fraction digits
  unfold decimalBits?
  rw [taken, left, splitFraction_pointed behind]
  have given : whole.isEmpty = false := by simpa using some
  simp only [given, Bool.false_and, Bool.false_eq_true, ↓reduceIte]
  rfl

/-- Digits behind a sign, or without one, are read in full and as no word for a number. -/
theorem ofChars?_of_splitSign {chars : List Char} {negative : Bool}
    (unsigned : splitSign chars = (negative, whole ++ pointed fraction)) (some : whole ≠ [])
    (digits : ∀ d ∈ whole, isDigit d) (behind : ∀ d ∈ fraction, isDigit d) :
    ofChars? chars = .some (ofSignAndBits negative (ofParts whole fraction 0)) := by
  have bits := decimalBits?_digits some digits behind
  obtain ⟨c, rest, rfl⟩ := List.exists_cons_of_ne_nil some
  have digit : isDigit c := digits c List.mem_cons_self
  obtain ⟨noPlus, noMinus, noI, noN⟩ := ne_of_isDigit digit
  rw [List.cons_append] at bits unsigned
  unfold ofChars?
  rw [unsigned]
  simp only [List.map_cons, lowerAscii_of_isDigit digit]
  rw [bits]
  simp [noI, noN]

/-- **Digits with a fraction are a number**: the double nearest to it, without a sign. -/
theorem ofChars?_digits (some : whole ≠ []) (digits : ∀ d ∈ whole, isDigit d)
    (behind : ∀ d ∈ fraction, isDigit d) :
    ofChars? (whole ++ pointed fraction) =
      .some (ofSignAndBits false (ofParts whole fraction 0)) := by
  apply ofChars?_of_splitSign ?_ some digits behind
  obtain ⟨c, rest, rfl⟩ := List.exists_cons_of_ne_nil some
  obtain ⟨noPlus, noMinus, -, -⟩ := ne_of_isDigit (digits c List.mem_cons_self)
  unfold splitSign
  split <;> simp_all

/-- A minus sign in front of digits is that of the number. -/
theorem ofChars?_minus (some : whole ≠ []) (digits : ∀ d ∈ whole, isDigit d)
    (behind : ∀ d ∈ fraction, isDigit d) :
    ofChars? ('-' :: (whole ++ pointed fraction)) =
      .some (ofSignAndBits true (ofParts whole fraction 0)) :=
  ofChars?_of_splitSign rfl some digits behind

end Number

end Scriptlet
