import RecordQuery.Json.Parser
import RecordQuery.Proofs.Number.Double

/-!
# Numbers in JSON text

The text of a number is that of a numeral: a sign, digits before a point, digits
after it and a power of ten.  The numeral is read back from the text, whatever
ends the number behind it, and stands for the number's value.  Integers are
written without fraction and power, floating-point numbers with one of them.
-/

namespace RecordQuery.Json

open Number Text

namespace Source

/-- Whether a number ends where the letters begin. -/
def EndsNumber (rest : List Char) : Prop :=
  ∀ first ∈ rest.head?,
    first.isDigit = false ∧ first ≠ '.' ∧ first ≠ 'e' ∧ first ≠ 'E'

theorem endsNumber_nil : EndsNumber [] :=
  nofun

theorem endsNumber_cons {first : Char} (rest : List Char)
    (other : first.isDigit = false ∧ first ≠ '.' ∧ first ≠ 'e' ∧
      first ≠ 'E') : EndsNumber (first :: rest) := by
  intro letter member
  rw [List.head?_cons, Option.mem_some_iff] at member
  rw [← member]
  exact other

/-! ## Parts of a number -/

theorem EndsNumber.undigited {rest : List Char} (ends : EndsNumber rest) :
    Undigited rest :=
  fun first member => (ends first member).1

theorem digits?_append {digits rest : List Char} (nonempty : digits ≠ [])
    (all : ∀ letter ∈ digits, letter.isDigit = true)
    (ends : Undigited rest) :
    digits? (digits ++ rest) = some (digits, rest) := by
  unfold digits?
  rw [takeWhile_isDigit_append all ends, dropWhile_isDigit_append all ends]
  cases digits with
  | nil => exact (nonempty rfl).elim
  | cons first digits => rfl

/-- A zero stands alone before the point. -/
def IsWhole (digits : List Char) : Prop :=
  digits.head? = some '0' → digits = ['0']

theorem whole?_append {digits rest : List Char} (nonempty : digits ≠ [])
    (all : ∀ letter ∈ digits, letter.isDigit = true)
    (isWhole : IsWhole digits) (ends : Undigited rest) :
    whole? (digits ++ rest) = some (digits, rest) := by
  by_cases zero : digits = ['0']
  · subst zero
    cases rest with
    | nil => rfl
    | cons next rest =>
        have other := ends next rfl
        simp [whole?, other]
  · have read := digits?_append nonempty all ends
    unfold whole?
    split
    · rename_i shape
      have led : digits.head? = some '0' := by
        rw [← List.head?_append_of_ne_nil digits nonempty, shape,
          List.head?_cons]
      exact (zero (isWhole led)).elim
    · exact read

theorem fraction?_point {digits rest : List Char} (nonempty : digits ≠ [])
    (all : ∀ letter ∈ digits, letter.isDigit = true)
    (ends : Undigited rest) :
    fraction? ('.' :: (digits ++ rest)) = some (digits, rest) :=
  digits?_append nonempty all ends

theorem fraction?_of_ne {rest : List Char} (pointless : rest.head? ≠ some '.') :
    fraction? rest = some ([], rest) := by
  unfold fraction?
  split
  · exact (pointless rfl).elim
  · rfl

/-- The sign and the digits of a power of ten. -/
def powerLetters (power : Int) : List Char :=
  (if power < 0 then '-' else '+') :: Nat.toDigits 10 power.natAbs

theorem power?_powerLetters (power : Int) {rest : List Char}
    (ends : Undigited rest) :
    power? (powerLetters power ++ rest) = some (power, rest) := by
  have read :=
    digits?_append Nat.toDigits_ne_nil
      (toDigits_isDigit power.natAbs) ends
  unfold powerLetters
  by_cases negative : power < 0
  · have value : -(power.natAbs : Int) = power := by omega
    rw [if_pos negative, List.cons_append, power?, read, Option.map_some]
    simp only [digitsValue_toDigits, value]
  · have value : (power.natAbs : Int) = power := by omega
    rw [if_neg negative, List.cons_append, power?, read, Option.map_some]
    simp only [digitsValue_toDigits, value]

theorem exponent?_of_ends {rest : List Char} (ends : EndsNumber rest) :
    exponent? rest = some (none, rest) := by
  unfold exponent?
  split
  · exact ((ends 'e' rfl).2.2.1 rfl).elim
  · exact ((ends 'E' rfl).2.2.2 rfl).elim
  · rfl

/-! ## Numerals -/

namespace Numeral

/-- Whether the digits of a numeral stand as they are read. -/
structure IsWritten (numeral : Numeral) : Prop where
  whole_ne_nil : numeral.whole ≠ []
  whole_isDigit : ∀ letter ∈ numeral.whole, letter.isDigit = true
  whole_zero : IsWhole numeral.whole
  fraction_isDigit : ∀ letter ∈ numeral.fraction, letter.isDigit = true

def exponentLetters : Option Int → List Char
  | none => []
  | some power => 'e' :: powerLetters power

def fractionLetters : List Char → List Char
  | [] => []
  | digits => '.' :: digits

/-- The letters of a numeral behind its sign. -/
def letters (numeral : Numeral) : List Char :=
  numeral.whole ++ fractionLetters numeral.fraction ++
    exponentLetters numeral.power?

/-- The letters of a numeral with a sign before them if it is negative. -/
def signedLetters (numeral : Numeral) : List Char :=
  if numeral.negative then '-' :: numeral.letters else numeral.letters

/-- The magnitude that a numeral stands for. -/
def toRat (numeral : Numeral) : ℚ :=
  digitsValue (numeral.whole ++ numeral.fraction) *
    10 ^ (numeral.power?.getD 0 - numeral.fraction.length)

theorem undigited_exponentLetters (power? : Option Int) {rest : List Char}
    (ends : EndsNumber rest) :
    Undigited (exponentLetters power? ++ rest) := by
  cases power? with
  | none => exact ends.undigited
  | some power => exact undigited_cons _ rfl

theorem undigited_fractionLetters (fraction : List Char) {rest : List Char}
    (ends : Undigited rest) : Undigited (fractionLetters fraction ++ rest) := by
  cases fraction with
  | nil => exact ends
  | cons first fraction => exact undigited_cons _ rfl

theorem fraction?_fractionLetters {fraction rest : List Char}
    (all : ∀ letter ∈ fraction, letter.isDigit = true)
    (ends : Undigited rest) (pointless : rest.head? ≠ some '.') :
    fraction? (fractionLetters fraction ++ rest) = some (fraction, rest) := by
  cases fraction with
  | nil => exact fraction?_of_ne pointless
  | cons first fraction =>
      exact fraction?_point (List.cons_ne_nil first fraction) all ends

theorem exponent?_exponentLetters (power? : Option Int) {rest : List Char}
    (ends : EndsNumber rest) :
    exponent? (exponentLetters power? ++ rest) = some (power?, rest) := by
  cases power? with
  | none => exact exponent?_of_ends ends
  | some power =>
      rw [exponentLetters, List.cons_append, exponent?,
        power?_powerLetters power ends.undigited, Option.map_some]

/-- A numeral is read back from its letters. -/
theorem numeral?_letters {numeral : Numeral} (written : numeral.IsWritten)
    {rest : List Char} (ends : EndsNumber rest) :
    numeral? numeral.negative (numeral.letters ++ rest) =
      some (numeral, rest) := by
  obtain ⟨negative, whole, fraction, power?⟩ := numeral
  obtain ⟨wholeNonempty, wholeDigits, wholeZero, fractionDigits⟩ := written
  have afterFraction := undigited_exponentLetters power? ends
  have pointless : (exponentLetters power? ++ rest).head? ≠ some '.' := by
    cases power? with
    | none => exact fun led => (ends '.' led).2.1 rfl
    | some power => simp [exponentLetters]
  simp only at wholeNonempty wholeDigits wholeZero fractionDigits
  simp only [numeral?, letters, List.append_assoc, Option.bind_eq_bind,
    whole?_append wholeNonempty wholeDigits wholeZero
      (undigited_fractionLetters fraction afterFraction),
    fraction?_fractionLetters fractionDigits afterFraction pointless,
    exponent?_exponentLetters power? ends, Option.bind_some]
  rfl

theorem exists_letters_eq_cons {numeral : Numeral}
    (written : numeral.IsWritten) :
    ∃ first rest, numeral.letters = first :: rest ∧
      first.isDigit = true := by
  obtain ⟨first, more, shape⟩ :=
    List.exists_cons_of_ne_nil written.whole_ne_nil
  have isDigit : first.isDigit = true :=
    written.whole_isDigit first (by rw [shape]; exact List.mem_cons_self)
  have led :
      numeral.letters =
        first :: (more ++ fractionLetters numeral.fraction ++
          exponentLetters numeral.power?) := by
    rw [letters, shape, List.cons_append, List.cons_append]
  exact ⟨first, _, led, isDigit⟩

theorem letters_append_ne_minus {numeral : Numeral}
    (written : numeral.IsWritten) (rest other : List Char) :
    numeral.letters ++ rest ≠ '-' :: other := by
  obtain ⟨first, more, shape, isDigit⟩ := exists_letters_eq_cons written
  rw [shape, List.cons_append]
  intro same
  rw [List.cons.injEq] at same
  rw [same.1] at isDigit
  cases isDigit

/-- Texts that begin alike begin with one numeral and go on alike. -/
theorem signedLetters_append_inj {left right : Numeral}
    (leftWritten : left.IsWritten) (rightWritten : right.IsWritten)
    {leftRest rightRest : List Char} (leftEnds : EndsNumber leftRest)
    (rightEnds : EndsNumber rightRest)
    (same : left.signedLetters ++ leftRest =
      right.signedLetters ++ rightRest) :
    left = right ∧ leftRest = rightRest := by
  have leftRead := numeral?_letters leftWritten leftEnds
  have rightRead := numeral?_letters rightWritten rightEnds
  have unsigned :
      left.negative = right.negative ∧
        left.letters ++ leftRest = right.letters ++ rightRest := by
    unfold signedLetters at same
    by_cases leftSign : left.negative = true
    · by_cases rightSign : right.negative = true
      · rw [if_pos leftSign, if_pos rightSign, List.cons_append,
          List.cons_append, List.cons.injEq] at same
        exact ⟨leftSign.trans rightSign.symm, same.2⟩
      · rw [if_pos leftSign, if_neg rightSign, List.cons_append] at same
        exact (letters_append_ne_minus rightWritten _ _ same.symm).elim
    · by_cases rightSign : right.negative = true
      · rw [if_neg leftSign, if_pos rightSign, List.cons_append] at same
        exact (letters_append_ne_minus leftWritten _ _ same).elim
      · rw [if_neg leftSign, if_neg rightSign] at same
        have leftPositive := Bool.eq_false_of_not_eq_true leftSign
        have rightPositive := Bool.eq_false_of_not_eq_true rightSign
        exact ⟨leftPositive.trans rightPositive.symm, same⟩
  rw [unsigned.1, unsigned.2, rightRead, Option.some.injEq,
    Prod.mk.injEq] at leftRead
  exact ⟨leftRead.1.symm, leftRead.2.symm⟩

/-! ## Integers -/

/-- The numeral that an integer is written as. -/
def ofInt (value : Int) : Numeral :=
  ⟨decide (value < 0), Nat.toDigits 10 value.natAbs, [], none⟩

theorem isWhole_toDigits (number : Nat) :
    IsWhole (Nat.toDigits 10 number) := by
  intro zero
  rcases Nat.eq_zero_or_pos number with rfl | positive
  · rfl
  · exact (toDigits_head?_ne_zero positive zero).elim

theorem isWritten_ofInt (value : Int) : (ofInt value).IsWritten where
  whole_ne_nil := Nat.toDigits_ne_nil
  whole_isDigit := toDigits_isDigit value.natAbs
  whole_zero := isWhole_toDigits value.natAbs
  fraction_isDigit := nofun

theorem signedLetters_ofInt (value : Int) :
    (ofInt value).signedLetters = (toString value).toList := by
  have unsigned : (ofInt value).letters = Nat.toDigits 10 value.natAbs := by
    rw [letters, ofInt, fractionLetters, exponentLetters, List.append_nil,
      List.append_nil]
  rw [signedLetters, unsigned, toList_toString, ofInt]
  simp only [decide_eq_true_eq]

theorem ofInt_injective {left right : Int} (same : ofInt left = ofInt right) :
    left = right := by
  simp only [ofInt, mk.injEq, decide_eq_decide, and_true] at same
  have magnitudes := toDigits_injective same.2
  omega

/-! ## Decimals -/

/-- The numeral of digits with so many of them before the point: they stand
around the point where they reach it, else behind the first digit with a power
of ten. -/
def ofLayout (negative : Bool) (digits : List Char) (point : Int) : Numeral :=
  if -5 < point ∧ point ≤ 16 then
    if point ≤ 0 then
      ⟨negative, ['0'], List.replicate (-point).toNat '0' ++ digits, none⟩
    else if digits.length ≤ point.toNat then
      ⟨negative, digits ++ List.replicate (point.toNat - digits.length) '0',
        ['0'], none⟩
    else
      ⟨negative, digits.take point.toNat, digits.drop point.toNat, none⟩
  else
    ⟨negative, digits.take 1, digits.drop 1, some (point - 1)⟩

/-- The numeral that a decimal is written as. -/
def ofDecimal (negative : Bool) (decimal : Decimal) : Numeral :=
  ofLayout negative decimal.layout.1 decimal.layout.2

section Layout

variable {digits : List Char} {point : Int}

theorem negative_ofLayout (negative : Bool) :
    (ofLayout negative digits point).negative = negative := by
  unfold ofLayout
  split_ifs <;> rfl

/-- Laid out digits have a fraction or a power of ten. -/
theorem ofLayout_ne_ofInt (negative : Bool) (nonempty : digits ≠ [])
    (value : Int) : ofLayout negative digits point ≠ ofInt value := by
  intro same
  have fractionless := congrArg Numeral.fraction same
  have powerless := congrArg Numeral.power? same
  unfold ofLayout at fractionless powerless
  split_ifs at fractionless powerless with positional small short
  · exact nonempty (List.append_eq_nil_iff.mp fractionless).2
  · cases fractionless
  · have fits := List.drop_eq_nil_iff.mp fractionless
    exact short fits
  · cases powerless

theorem isWhole_of_head? {whole : List Char}
    (led : whole.head? ≠ some '0') : IsWhole whole :=
  fun zero => (led zero).elim

theorem isWritten_ofLayout (negative : Bool) (nonempty : digits ≠ [])
    (all : ∀ letter ∈ digits, letter.isDigit = true)
    (led : digits.head? ≠ some '0') :
    (ofLayout negative digits point).IsWritten := by
  have zeros :
      ∀ count, ∀ letter ∈ List.replicate count '0',
        letter.isDigit = true := by
    intro count letter member
    rw [List.eq_of_mem_replicate member]
    rfl
  obtain ⟨first, more, rfl⟩ := List.exists_cons_of_ne_nil nonempty
  unfold ofLayout
  split_ifs with positional small short
  · refine ⟨List.cons_ne_nil _ _, by simp, fun _ => rfl, ?_⟩
    exact fun letter member =>
      (List.mem_append.mp member).elim (zeros _ letter) (all letter)
  · refine ⟨List.cons_ne_nil _ _, ?_, isWhole_of_head? led, by simp⟩
    exact fun letter member =>
      (List.mem_append.mp member).elim (all letter) (zeros _ letter)
  · obtain ⟨before, count⟩ :=
      Nat.exists_eq_succ_of_ne_zero (by omega : point.toNat ≠ 0)
    rw [count]
    exact ⟨List.cons_ne_nil _ _,
      fun letter member => all letter (List.mem_of_mem_take member),
      isWhole_of_head? led,
      fun letter member => all letter (List.mem_of_mem_drop member)⟩
  · exact ⟨List.cons_ne_nil _ _,
      fun letter member => all letter (List.mem_of_mem_take member),
      isWhole_of_head? led,
      fun letter member => all letter (List.mem_of_mem_drop member)⟩

/-- Where the digits stand, the number is that of the digits and of the places
behind the point. -/
theorem toRat_ofLayout (negative : Bool) (nonempty : digits ≠ []) :
    (ofLayout negative digits point).toRat =
      digitsValue digits * 10 ^ (point - digits.length) := by
  have length := List.length_pos_of_ne_nil nonempty
  unfold ofLayout
  split_ifs with positional small short
  · have value :
        digitsValue
            (['0'] ++ (List.replicate (-point).toNat '0' ++ digits)) =
          digitsValue digits := by
      rw [← List.replicate_one, digitsValue_zeros_append,
        digitsValue_zeros_append]
    have places :
        (0 : Int) - (List.replicate (-point).toNat '0' ++ digits).length =
          point - digits.length := by
      rw [List.length_append, List.length_replicate]
      omega
    simp only [toRat, Option.getD_none, value, places]
  · have value :
        digitsValue
            (digits ++ List.replicate (point.toNat - digits.length) '0' ++
              ['0']) =
          digitsValue digits * 10 ^ (point.toNat - digits.length) * 10 := by
      rw [← List.replicate_one, digitsValue_append_zeros,
        digitsValue_append_zeros, pow_one]
    have places :
        point - digits.length = ((point.toNat - digits.length : Nat) : Int) := by
      omega
    simp only [toRat, Option.getD_none, value, places, zpow_natCast]
    push_cast
    norm_num
    ring
  · have value :
        digitsValue (digits.take point.toNat ++ digits.drop point.toNat) =
          digitsValue digits := by
      rw [List.take_append_drop]
    have places :
        (0 : Int) - (digits.drop point.toNat).length =
          point - digits.length := by
      rw [List.length_drop]
      omega
    simp only [toRat, Option.getD_none, value, places]
  · have value :
        digitsValue (digits.take 1 ++ digits.drop 1) = digitsValue digits := by
      rw [List.take_append_drop]
    have places :
        point - 1 - (digits.drop 1).length = point - digits.length := by
      rw [List.length_drop]
      omega
    simp only [toRat, Option.getD_some, value, places]

end Layout

theorem letters_of_fraction (negative : Bool) (whole : List Char)
    {fraction : List Char} (nonempty : fraction ≠ []) :
    letters ⟨negative, whole, fraction, none⟩ = whole ++ '.' :: fraction := by
  obtain ⟨first, more, rfl⟩ := List.exists_cons_of_ne_nil nonempty
  rw [letters, fractionLetters, exponentLetters, List.append_nil]
  exact nofun

theorem letters_ofDecimal (negative : Bool) (decimal : Decimal) :
    (ofDecimal negative decimal).letters = decimalText decimal := by
  have nonempty : decimal.layout.1 ≠ [] := Nat.toDigits_ne_nil
  unfold ofDecimal ofLayout decimalText Decimal.positional
  generalize decimal.layout = layout at *
  obtain ⟨digits, point⟩ := layout
  simp only at nonempty ⊢
  by_cases positional : -5 < point ∧ point ≤ 16
  · rw [if_pos positional, if_pos positional]
    by_cases small : point ≤ 0
    · have notShort : ¬(0 < point ∧ digits.length ≤ point.toNat) := by omega
      rw [if_pos small, if_neg notShort, if_pos small,
        letters_of_fraction _ _
          (List.append_ne_nil_of_right_ne_nil _ nonempty)]
      rfl
    · by_cases short : digits.length ≤ point.toNat
      · have reached : 0 < point ∧ digits.length ≤ point.toNat := by omega
        rw [if_neg small, if_pos short, if_pos reached, if_neg small,
          if_pos short, letters_of_fraction _ _ (List.cons_ne_nil _ _)]
      · have notShort : ¬(0 < point ∧ digits.length ≤ point.toNat) := by omega
        have behind : digits.drop point.toNat ≠ [] :=
          fun empty => short (List.drop_eq_nil_iff.mp empty)
        rw [if_neg small, if_neg short, if_neg notShort, if_neg small,
          if_neg short, letters_of_fraction _ _ behind]
  · rw [if_neg positional, if_neg positional]
    rfl

/-- The numeral stands for the value of the decimal. -/
theorem toRat_ofDecimal (negative : Bool) (decimal : Decimal) :
    (ofDecimal negative decimal).toRat = decimal.toRat := by
  have nonempty : decimal.layout.1 ≠ [] := Nat.toDigits_ne_nil
  have places :
      decimal.layout.2 - decimal.layout.1.length = decimal.exponent := by
    simp only [Decimal.layout]
    omega
  have value : digitsValue decimal.layout.1 = decimal.digits :=
    digitsValue_toDigits decimal.digits
  rw [ofDecimal, toRat_ofLayout negative nonempty, places, value,
    Decimal.toRat]

theorem isWritten_ofDecimal (negative : Bool) {decimal : Decimal}
    (positive : 0 < decimal.digits) :
    (ofDecimal negative decimal).IsWritten :=
  isWritten_ofLayout negative Nat.toDigits_ne_nil
    (toDigits_isDigit decimal.digits) (toDigits_head?_ne_zero positive)

/-! ## Floating-point numbers -/

/-- The numeral of a floating-point number in its parts. -/
def ofParts (negative : Bool) (significand : Nat) (exponent : Int) : Numeral :=
  if significand = 0 then ⟨negative, ['0'], ['0'], none⟩
  else ofDecimal negative (shortest .even significand exponent)

section Float

variable {significand : Nat} {exponent : Int}

theorem negative_ofParts (negative : Bool) :
    (ofParts negative significand exponent).negative = negative := by
  unfold ofParts
  split_ifs
  · rfl
  · exact negative_ofLayout negative

theorem ofParts_ne_ofInt (negative : Bool) (value : Int) :
    ofParts negative significand exponent ≠ ofInt value := by
  unfold ofParts
  split_ifs
  · intro same
    cases congrArg Numeral.fraction same
  · exact ofLayout_ne_ofInt negative Nat.toDigits_ne_nil value

theorem signedLetters_ofParts {number : Double} {negative : Bool}
    (read : number.reading = .finite negative significand exponent) :
    (ofParts negative significand exponent).signedLetters =
      floatText number := by
  have letters :
      (ofParts negative significand exponent).letters =
        if significand = 0 then ['0', '.', '0']
        else decimalText (shortest .even significand exponent) := by
    unfold ofParts
    split_ifs
    · rfl
    · exact letters_ofDecimal negative _
  rw [floatText, read, signedLetters, negative_ofParts, letters]

theorem isWritten_ofParts (negative : Bool)
    (double : IsDouble significand exponent) :
    (ofParts negative significand exponent).IsWritten := by
  unfold ofParts
  split_ifs with zero
  · exact ⟨List.cons_ne_nil _ _, by simp, fun _ => rfl, by simp⟩
  · have positive := double.shortest_pos (Nat.pos_of_ne_zero zero) .even
    exact isWritten_ofDecimal negative (Decimal.digits_pos_of_toRat_pos positive)

theorem toRat_ofParts_zero (negative : Bool) :
    (ofParts negative 0 exponent).toRat = 0 := by
  have value : digitsValue (['0'] ++ ['0']) = 0 :=
    digitsValue_replicate_zero 2
  rw [ofParts, if_pos rfl, toRat, value, Nat.cast_zero, zero_mul]

theorem toRat_ofParts (negative : Bool) (nonzero : significand ≠ 0) :
    (ofParts negative significand exponent).toRat =
      (shortest .even significand exponent).toRat := by
  rw [ofParts, if_neg nonzero, toRat_ofDecimal]

theorem exponent_of_zero (double : IsDouble 0 exponent) :
    exponent = -1074 := by
  rcases double.normal with least | normal
  · exact least
  · exact absurd normal (by decide)

/-- Doubles with one numeral are read alike. -/
theorem ofParts_inj {negative otherNegative : Bool} {other : Nat}
    {otherExponent : Int} (double : IsDouble significand exponent)
    (otherDouble : IsDouble other otherExponent)
    (same : ofParts negative significand exponent =
      ofParts otherNegative other otherExponent) :
    negative = otherNegative ∧ significand = other ∧
      exponent = otherExponent := by
  have signs := congrArg Numeral.negative same
  rw [negative_ofParts, negative_ofParts] at signs
  have values := congrArg toRat same
  refine ⟨signs, ?_⟩
  by_cases zero : significand = 0
  · subst zero
    by_cases otherZero : other = 0
    · subst otherZero
      exact ⟨rfl, (exponent_of_zero double).trans
        (exponent_of_zero otherDouble).symm⟩
    · have positive :=
        otherDouble.shortest_pos (Nat.pos_of_ne_zero otherZero) .even
      rw [toRat_ofParts_zero, toRat_ofParts _ otherZero] at values
      exact (positive.ne values).elim
  · have positive := double.shortest_pos (Nat.pos_of_ne_zero zero) .even
    by_cases otherZero : other = 0
    · subst otherZero
      rw [toRat_ofParts_zero, toRat_ofParts _ zero] at values
      exact (positive.ne values.symm).elim
    · rw [toRat_ofParts _ zero, toRat_ofParts _ otherZero] at values
      exact double.eq_of_shortest otherDouble (Nat.pos_of_ne_zero zero)
        (Nat.pos_of_ne_zero otherZero) values

end Float

end Numeral

end Source

end RecordQuery.Json
