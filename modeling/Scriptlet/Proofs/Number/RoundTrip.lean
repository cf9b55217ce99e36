import Scriptlet.Machine.Evaluation
import Scriptlet.Program
import Scriptlet.Proofs.Number.Doubles
import Scriptlet.Proofs.Number.Printing
import Scriptlet.Proofs.Token.Spacing
import Scriptlet.Surroundings

/-!
# The text of a number stands for this number

What is printed for a number is read as the same number, both as a text and, where it is finite, as
a piece of a source text: one token for the number without its sign, and one for the sign.
-/

namespace Scriptlet

open Piece

namespace Text

theorem not_isBlank_of_all {chars : List Char} (solid : chars.all fun c => !isBlank c) :
    ∀ c ∈ chars, ¬ isBlank c := by
  simpa using solid

/-- Characters of which none is blank stay as they are. -/
theorem trim_of_not_isBlank {chars : List Char} (solid : ∀ c ∈ chars, ¬ isBlank c) :
    trim chars = chars := by
  have kept (run : List Char) (solid : ∀ c ∈ run, ¬ isBlank c) : run.dropWhile isBlank = run := by
    cases run with
    | nil => rfl
    | cons c rest => exact List.dropWhile_cons_of_neg (solid c List.mem_cons_self)
  have backwards := kept chars.reverse fun c inside => solid c (List.mem_reverse.mp inside)
  rw [trim, kept chars solid, backwards, List.reverse_reverse]

end Text

namespace Number

variable {x : Float}

theorem not_isBlank_of_isDigit {c : Char} (digit : isDigit c) : ¬ Text.isBlank c := by
  simp only [isDigit, Bool.and_eq_true, decide_eq_true_eq, Char.le_def,
    UInt32.le_iff_toNat_le] at digit
  have least : 48 ≤ c.toNat := digit.1
  have most : c.toNat ≤ 57 := digit.2
  simp only [Text.isBlank, Text.blankRanges, List.any_cons, List.any_nil, Bool.or_false,
    Bool.or_eq_true, Bool.and_eq_true, decide_eq_true_eq]
  omega

namespace Numeral

/-- The characters of a numeral are digits, and the point. -/
theorem mem_chars {numeral : Numeral} {c : Char} (inside : c ∈ numeral.chars) :
    isDigit c ∨ c = '.' := by
  rcases List.mem_append.mp inside with inside | inside
  · exact .inl (numeral.digits c inside)
  · cases fraction : numeral.fraction with
    | nil =>
        rw [fraction] at inside
        cases inside
    | cons d rest =>
        rw [fraction, pointed] at inside
        rcases List.mem_cons.mp inside with rfl | inside
        · exact .inr rfl
        · exact .inl (numeral.behind c (fraction ▸ inside))

theorem not_isBlank (numeral : Numeral) : ∀ c ∈ numeral.chars, ¬ Text.isBlank c := by
  intro c inside
  rcases mem_chars inside with digit | rfl
  · exact not_isBlank_of_isDigit digit
  · decide

/-- No numeral holds a line break. -/
theorem lineBreaks_chars (numeral : Numeral) : lineBreaks numeral.chars = 0 := by
  apply List.count_eq_zero.mpr
  intro inside
  rcases mem_chars inside with digit | point
  · exact absurd digit (by decide)
  · exact absurd point (by decide)

end Numeral

/-- The sign that is written in front of a number. -/
def signChars (x : Float) : List Char :=
  if isNegative x then ['-'] else []

/-- Zero is written as a single digit. -/
theorem exists_numeral_of_zero :
    ∃ numeral : Numeral, numeral.chars = ['0'] ∧ numeral.bits = 0 := by
  have spelled : ofDigits ['0'] = 0 := ofDigits_replicate 1
  have digits : ∀ d ∈ ['0'], isDigit d := List.all_eq_true.mp (by decide)
  refine ⟨⟨['0'], [], List.cons_ne_nil _ _, digits, by simp⟩, rfl, ?_⟩
  rw [Numeral.bits, ofParts, List.append_nil, spelled, nearestDecimal, if_pos rfl]

/-- **A finite number is printed as a numeral** for its magnitude, behind its sign. -/
theorem chars_of_isFinite (finite : x.isFinite) :
    ∃ numeral : Numeral, chars x = signChars x ++ numeral.chars ∧
      numeral.bits = magnitudeBits x := by
  rw [isFinite_eq, decide_eq_true_eq] at finite
  have number : x.isNaN = false := by
    rw [isNaN_eq, decide_eq_false_iff_not]
    omega
  have bounded : x.isInf = false := by
    rw [isInf_eq, decide_eq_false_iff_not]
    omega
  have unsigned : ∃ numeral : Numeral,
      numeral.chars = (if magnitudeBits x = 0 then ['0']
        else (shortestDecimal (magnitudeBits x)).positional) ∧
      numeral.bits = magnitudeBits x := by
    split
    · next zero =>
        rw [zero]
        exact exists_numeral_of_zero
    · have readsBack := readsBack_shortestDecimal finite
      rw [Decimal.readsBack, decide_eq_true_eq] at readsBack
      obtain ⟨numeral, written, nearest⟩ := (shortestDecimal (magnitudeBits x)).exists_numeral
      exact ⟨numeral, written, nearest.trans readsBack⟩
  obtain ⟨numeral, written, bits⟩ := unsigned
  refine ⟨numeral, ?_, bits⟩
  rw [chars, number, bounded]
  simp only [Bool.false_eq_true, ↓reduceIte]
  rw [← written, signChars]
  split <;> rfl

/-- What is not finite is spelled out as a word that is read back. -/
theorem ofChars?_chars_of_not_isFinite (infinite : ¬ x.isFinite) :
    ofChars? (chars x) = some x ∧ ∀ c ∈ chars x, ¬ Text.isBlank c := by
  rw [isFinite_eq, decide_eq_true_eq] at infinite
  by_cases noNumber : x.isNaN
  · rw [chars, if_pos noNumber, eq_of_isNaN noNumber]
    exact ⟨rfl, Text.not_isBlank_of_all (by decide)⟩
  · have bits : magnitudeBits x = infinityBits := by
      rw [isNaN_eq, decide_eq_true_eq] at noNumber
      omega
    have isInf : x.isInf := by rw [isInf_eq, bits, decide_eq_true rfl]
    have parts := ofSignAndBits_magnitudeBits x
    rw [bits] at parts
    rw [chars, if_neg noNumber, if_pos isInf]
    cases sign : isNegative x with
    | true =>
        rw [sign] at parts
        exact ⟨by rw [← parts]; rfl, Text.not_isBlank_of_all (by decide)⟩
    | false =>
        rw [sign] at parts
        exact ⟨by rw [← parts]; rfl, Text.not_isBlank_of_all (by decide)⟩

/-- **The text of a number is read as this number.** -/
theorem ofText?_text (x : Float) : ofText? (text x) = some x := by
  rw [ofText?, text, String.toList_ofList]
  by_cases finite : x.isFinite
  · obtain ⟨numeral, written, bits⟩ := chars_of_isFinite finite
    have solid : ∀ c ∈ chars x, ¬ Text.isBlank c := by
      intro c inside
      rw [written, signChars] at inside
      rcases List.mem_append.mp inside with inside | inside
      · split at inside
        · rw [List.mem_singleton.mp inside]
          decide
        · cases inside
      · exact numeral.not_isBlank c inside
    have value : ofChars? (chars x) = some (ofSignAndBits (isNegative x) numeral.bits) := by
      rw [written, signChars]
      cases isNegative x with
      | true => exact ofChars?_minus numeral.nonempty numeral.digits numeral.behind
      | false => exact ofChars?_digits numeral.nonempty numeral.digits numeral.behind
    rw [Text.trim_of_not_isBlank solid, value, bits, ofSignAndBits_magnitudeBits]
  · obtain ⟨value, solid⟩ := ofChars?_chars_of_not_isFinite finite
    rw [Text.trim_of_not_isBlank solid, value]

/-! ## Numbers in a source text -/

/-- A numeral is one piece of a source text, the token of its number. -/
theorem Numeral.split_chars (numeral : Numeral) :
    split numeral.chars =
      [token (.number (ofSignAndBits false numeral.bits)) numeral.chars] := by
  have matched : Pattern.number.Matches numeral.chars :=
    .number numeral.nonempty numeral.digits numeral.behind
  have value : ofChars? numeral.chars = some (ofSignAndBits false numeral.bits) :=
    ofChars?_digits numeral.nonempty numeral.digits numeral.behind
  have cut := @split_token numeral.chars [] _ (.number matched value) (by simp)
  rw [List.append_nil] at cut
  rw [cut, split]

/-- A minus sign in front of a digit is a token of its own. -/
theorem split_minus {c : Char} (digit : isDigit c) (rest : List Char) :
    split ('-' :: c :: rest) = token (.symbol .minus) ['-'] :: split (c :: rest) := by
  have single : Symbol.ofSpelling? ['-', c] = none := by
    apply Option.eq_none_iff_forall_ne_some.mpr
    intro symbol found
    have spelled := Symbol.ofSpelling?_eq_some_iff.mp found
    cases symbol <;> simp [Symbol.spelling] at spelled
    all_goals
      subst spelled
      exact absurd digit (by decide)
  have piece : first '-' (c :: rest) = token (.symbol .minus) ['-'] := by
    have alone : Symbol.ofSpelling? ['-'] = some .minus := by decide
    rw [first_eq, show CharClass.of '-' = .mark by decide]
    simp only [Piece.symbol, List.take_succ_cons, List.take_zero, single, alone]
    rfl
  rw [split, piece]
  rfl

/-- The token of the sign that is written in front of a number. -/
def signTokens (x : Float) : List Token :=
  if isNegative x then [⟨.symbol .minus, "-", 1⟩] else []

/-- **The text of a finite number is one token for its magnitude**, behind one for its sign. -/
theorem ofSource_text {numeral : Numeral} (written : chars x = signChars x ++ numeral.chars)
    (bits : numeral.bits = magnitudeBits x) :
    Scan.ofSource (text x) =
      ⟨signTokens x ++ [⟨.number x.abs, String.ofList numeral.chars, 1⟩], []⟩ := by
  have alone := numeral.split_chars
  have oneLine := numeral.lineBreaks_chars
  rw [Scan.ofSource, text, String.toList_ofList, written, signChars, signTokens, abs_eq, ← bits]
  cases isNegative x with
  | false =>
      simp only [Bool.false_eq_true, ↓reduceIte, List.nil_append, alone, Scan.ofPieces, Scan.behind,
        Piece.chars, oneLine]
  | true =>
      obtain ⟨c, rest, begins⟩ := List.exists_cons_of_ne_nil numeral.nonempty
      have digit : isDigit c := numeral.digits c (begins ▸ List.mem_cons_self)
      have whole : numeral.chars = c :: (rest ++ pointed numeral.fraction) := by
        rw [Numeral.chars, begins, List.cons_append]
      rw [whole] at alone oneLine
      simp only [↓reduceIte, List.singleton_append, whole, split_minus digit, alone, Scan.ofPieces,
        Scan.behind, Piece.chars, oneLine]
      rfl

/-! ## Both readers -/

/-- The comparison of a variable with what its text stands for: `number(string(x)) == x`. -/
def roundTripped (line : Nat) (name : String) : Expr :=
  .binary line .equal
    (.call line (.reference line "number")
      [.call line (.reference line "string") [.reference line name]])
    (.reference line name)

example : Program.ofSource "number(string(x)) == x;" =
    ⟨[.expression 1 (roundTripped 1 "x")], []⟩ := by
  have pieces : split "number(string(x)) == x;".toList =
      [.token (.identifier "number") ['n', 'u', 'm', 'b', 'e', 'r'],
        .token (.symbol .leftParen) ['('],
        .token (.identifier "string") ['s', 't', 'r', 'i', 'n', 'g'],
        .token (.symbol .leftParen) ['('], .token (.identifier "x") ['x'],
        .token (.symbol .rightParen) [')'], .token (.symbol .rightParen) [')'], .layout [' '],
        .token (.symbol .equalEqual) ['=', '='], .layout [' '],
        .token (.identifier "x") ['x'], .token (.symbol .semicolon) [';']] := by
    with_unfolding_all rfl
  rw [Program.ofSource, Scan.ofSource, pieces]
  rfl

section

variable [Host] {line i j : Nat} {name : String} {machine : Machine}

/-- A reference to a bound name. -/
theorem evaluate_reference {value : Value} (bound : Nat)
    (held : machine.scopes.get machine.scope name = .ok value) :
    evaluate (bound + 1) (.reference line name) machine = .done value machine := by
  change Machine.lookup line name machine = _
  rw [Machine.lookup, held]
  rfl

/-- A call of a native function with one argument. -/
theorem evaluate_nativeCall {bound : Nat} {builtin : Native} {callee argument : Expr}
    {value : Value}
    (called : evaluate bound callee machine = .done (.function (.native i builtin)) machine)
    (given : evaluate bound argument machine = .done value machine) (one : builtin.arity = 1) :
    evaluate (bound + 1) (.call line callee [argument]) machine =
      Evaluation.callNative builtin [value] machine := by
  have arguments : Action.collect (evaluate bound) [argument] machine = .done [value] machine := by
    simp only [Action.collect, Action.bind_apply, given, Action.pure_apply]
  rw [evaluate, Evaluation.evaluateNode]
  simp only [Action.bind_apply, called, arguments]
  simp only [Evaluation.callValue, Function.arity, one, List.length_singleton, ↓reduceIte,
    Evaluation.callFunction]

/-- A program finds a number equal to what its text stands for. -/
theorem evaluate_roundTripped (bound : Nat)
    (number : machine.scopes.get machine.scope "number" = .ok (.function (.native i .number)))
    (string : machine.scopes.get machine.scope "string" = .ok (.function (.native j .string)))
    (held : machine.scopes.get machine.scope name = .ok (.number x)) :
    evaluate (bound + 4) (roundTripped line name) machine = .done (.bool true) machine := by
  have printed : evaluate (bound + 2)
      (.call line (.reference line "string") [.reference line name]) machine =
        .done (.text (text x)) machine :=
    evaluate_nativeCall (evaluate_reference bound string) (evaluate_reference bound held) rfl
  have reread : evaluate (bound + 3) (.call line (.reference line "number")
      [.call line (.reference line "string") [.reference line name]]) machine =
        .done (.number x) machine := by
    refine (evaluate_nativeCall (evaluate_reference (bound + 1) number) printed rfl).trans ?_
    simp only [Evaluation.callNative, Native.call, Value.toNumber, Value.display, ofText?_text]
  rw [roundTripped, evaluate, Evaluation.evaluateNode]
  simp only [Action.bind_apply, reread, evaluate_reference (bound + 2) held]
  simp [Action.ofExcept, BinaryOp.apply, Value.same]

/-- **Numbers survive their text.** What is printed for a number is read as the same number, by the
language itself as well, and for a finite number it is digits, perhaps with a fraction, that are one
token for its magnitude behind one token for its sign. -/
theorem text_roundTrips (x : Float) :
    ofText? (text x) = some x ∧
    (∀ (bound line i j : Nat) (name : String) (machine : Machine),
      machine.scopes.get machine.scope "number" = .ok (.function (.native i .number)) →
      machine.scopes.get machine.scope "string" = .ok (.function (.native j .string)) →
      machine.scopes.get machine.scope name = .ok (.number x) →
      evaluate (bound + 4) (roundTripped line name) machine = .done (.bool true) machine) ∧
    (x.isFinite →
      ∃ numeral : Numeral, chars x = signChars x ++ numeral.chars ∧
        Scan.ofSource (text x) =
          ⟨signTokens x ++ [⟨.number x.abs, String.ofList numeral.chars, 1⟩], []⟩) := by
  refine ⟨ofText?_text x, ?_, ?_⟩
  · intro bound line i j name machine number string held
    exact evaluate_roundTripped bound number string held
  · intro finite
    obtain ⟨numeral, written, bits⟩ := chars_of_isFinite finite
    exact ⟨numeral, written, ofSource_text written bits⟩

end

/-- The double nearest to `-0.1`. -/
def minusTenth : Float := Float.ofBits 0xBFB999999999999A

/-- A fresh machine in which `x` is bound to it. -/
def tenthHeld : Machine :=
  let fresh := Machine.fresh ⟨false, 9⟩ (.bare []) .unlimited
  { fresh with scopes := fresh.scopes.define 0 "x" (.number minusTenth) }

/-- The theorem at the double nearest to `-0.1`, in a variable of a fresh machine. -/
theorem text_roundTrips_minusTenth :
    minusTenth.isFinite ∧
      tenthHeld.scopes.get 0 "number" = .ok (.function (.native 9 .number)) ∧
      tenthHeld.scopes.get 0 "string" = .ok (.function (.native 10 .string)) ∧
      tenthHeld.scopes.get 0 "x" = .ok (.number minusTenth) ∧
      evaluate 4 (roundTripped 1 "x") tenthHeld = .done (.bool true) tenthHeld ∧
      ∃ numeral : Numeral, chars minusTenth = '-' :: numeral.chars ∧
        Scan.ofSource (text minusTenth) =
          ⟨[⟨.symbol .minus, "-", 1⟩,
            ⟨.number minusTenth.abs, String.ofList numeral.chars, 1⟩], []⟩ := by
  have finite : minusTenth.isFinite := by decide
  have negative : isNegative minusTenth = true := by decide
  have number : tenthHeld.scopes.get 0 "number" = .ok (.function (.native 9 .number)) := by
    with_unfolding_all rfl
  have string : tenthHeld.scopes.get 0 "string" = .ok (.function (.native 10 .string)) := by
    with_unfolding_all rfl
  have held : tenthHeld.scopes.get 0 "x" = .ok (.number minusTenth) := by
    with_unfolding_all rfl
  obtain ⟨-, equal, printed⟩ := text_roundTrips minusTenth
  obtain ⟨numeral, written, tokens⟩ := printed finite
  rw [signChars, if_pos negative] at written
  rw [signTokens, if_pos negative] at tokens
  exact ⟨finite, number, string, held, equal 0 1 9 10 "x" tenthHeld number string held,
    numeral, written, tokens⟩

end Number

end Scriptlet
