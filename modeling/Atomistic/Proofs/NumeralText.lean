import Atomistic.Number.Layout
import Atomistic.Proofs.DecimalRounding
import Atomistic.Proofs.NumeralGrammar

/-! Written numbers are words that read back as the number, since they are numerals of it. -/

namespace Atomistic.Number

open Text

def AreDigits (text : List Char) : Prop :=
  ∀ c ∈ text, c.isDigit = true

def digitValues (digits : List Char) : List Nat :=
  digits.map fun c => c.toNat - '0'.toNat

theorem ofDigits_digitValues (digits : List Char) :
    ofDigits (digitValues digits) = Nat.ofDigitChars 10 digits 0 := by
  simp [ofDigits, digitValues, Nat.ofDigitChars_eq_foldl, List.foldl_map]

theorem areDigits_toDigits (value : Nat) : AreDigits (Nat.toDigits 10 value) :=
  fun _ member => Nat.isDigit_of_mem_toDigits (by decide) (by decide) member

theorem AreDigits.append {first second : List Char} (left : AreDigits first)
    (right : AreDigits second) : AreDigits (first ++ second) := by
  intro c member
  rcases List.mem_append.1 member with inside | inside
  · exact left c inside
  · exact right c inside

theorem AreDigits.sublist {part whole : List Char} (plain : AreDigits whole)
    (sublist : part.Sublist whole) : AreDigits part :=
  fun c member => plain c (sublist.subset member)

theorem areDigits_zeros (count : Int) : AreDigits (zeros count) := by
  intro c member
  rw [List.eq_of_mem_replicate member]
  rfl

private theorem toNat_digit {c : Char} (digit : c.isDigit = true) :
    48 ≤ c.toNat ∧ c.toNat ≤ 57 :=
  Char.isDigit_iff_toNat.1 digit

theorem digitValue?_digit {c : Char} (digit : c.isDigit = true) :
    digitValue? c = some (c.toNat - '0'.toNat) := by
  obtain ⟨low, high⟩ := toNat_digit digit
  have first : (48 ≤ c.toNat && c.toNat < 48 + 10) = true := by simp; omega
  simp [digitValue?, digitZeros, List.find?_cons_of_pos, first]

theorem isBlank_digit {c : Char} (digit : c.isDigit = true) : isBlank c = false := by
  obtain ⟨low, high⟩ := toNat_digit digit
  simp [isBlank]
  omega

theorem toLower_digit {c : Char} (digit : c.isDigit = true) : c.toLower = c := by
  obtain ⟨-, high⟩ := toNat_digit digit
  exact toLower_of_outside (.inl (by omega))

theorem AreDigits.spelled {digits : List Char} (plain : AreDigits digits) :
    SpellsDigits digits (digitValues digits) := by
  rw [SpellsDigits, digitValues, List.map_map]
  exact List.map_congr_left fun c inside => digitValue?_digit (plain c inside)

theorem digitValues_ne_nil {digits : List Char} (nonempty : digits ≠ []) :
    digitValues digits ≠ [] := by
  simpa [digitValues] using nonempty

theorem isWord_digits {digits : List Char} (nonempty : digits ≠ []) (plain : AreDigits digits) :
    IsWord digits :=
  ⟨nonempty, fun c member => isBlank_digit (plain c member)⟩

theorem isSign_signText (negative : Bool) : IsSign (signText negative) negative := by
  cases negative with
  | false => exact .missing
  | true => exact .minus

theorem isBlank_signText (negative : Bool) : ∀ c ∈ signText negative, isBlank c = false := by
  cases negative with
  | false => simp [signText]
  | true =>
    intro c inside
    cases List.mem_singleton.1 inside
    rfl

section Integers

theorem readInteger?_writeInt (value : Int) :
    readInteger? (writeInt value) =
      some ⟨decide (value < 0), digitValues (Nat.toDigits 10 value.natAbs)⟩ :=
  readInteger?_eq_some_iff.2 ⟨_, _, rfl, isSign_signText _,
    (areDigits_toDigits value.natAbs).spelled, digitValues_ne_nil Nat.toDigits_ne_nil⟩

/-- Zeros in front of the digits of a number do not change it. -/
theorem value_padded (count value : Int) :
    IntegerNumeral.value
      ⟨decide (value < 0), digitValues (zeros count ++ Nat.toDigits 10 value.natAbs)⟩ = value := by
  simp only [IntegerNumeral.value, ofDigits_digitValues, Nat.ofDigitChars_append, zeros,
    Nat.ofDigitChars_replicate_zero, Nat.mul_zero, Nat.ofDigitChars_ten_toDigits,
    decide_eq_true_eq]
  split <;> omega

theorem value_writeInt (value : Int) :
    IntegerNumeral.value ⟨decide (value < 0), digitValues (Nat.toDigits 10 value.natAbs)⟩ =
      value :=
  value_padded 0 value

theorem writeInt_natCast (value : Nat) : writeInt value = Nat.toDigits 10 value := by
  have natural : ¬ (value : Int) < 0 := by omega
  simp [writeInt, natural, signText]

theorem isWord_writeInt (value : Int) : IsWord (writeInt value) := by
  have digits := isWord_digits Nat.toDigits_ne_nil (areDigits_toDigits value.natAbs)
  constructor
  · simp [writeInt, digits.nonempty]
  · intro c member
    rcases List.mem_append.1 member with sign | digit
    · exact isBlank_signText _ c sign
    · exact digits.solid c digit

end Integers

section Decimals

/-- A text that begins with a digit and reads as a decimal. -/
structure Spells (text : List Char) (coefficient : Nat) (exponent : Int) : Prop where
  digit : ∀ c ∈ text.head?, c.isDigit = true
  word : IsWord text
  read : readDecimal? text = some (coefficient, exponent)

/-- A digit in front rules the words for infinity and nan out. -/
theorem readReal?_spelled {text : List Char} {coefficient : Nat} {exponent : Int}
    (spelled : Spells text coefficient exponent) (negative : Bool) :
    readReal? (signText negative ++ text) = some (.decimal negative coefficient exponent) := by
  obtain ⟨c, rest, rfl⟩ := List.exists_cons_of_ne_nil spelled.word.nonempty
  obtain ⟨low, high⟩ := toNat_digit (spelled.digit c rfl)
  have unsigned : c ≠ '-' ∧ c ≠ '+' := unsigned_of_digit (.inl ⟨low, Nat.lt_succ_of_le high⟩)
  have sign := @takeSign_append _ (c :: rest) _ (isSign_signText negative) (by simpa using unsigned)
  rw [readReal?_decimal (.inl (Nat.lt_succ_of_le high)) sign, spelled.read]
  rfl

theorem readDecimal?_whole {whole scale : List Char} {exponent : Int} (nonempty : whole ≠ [])
    (plain : AreDigits whole) (scaled : IsExponent scale exponent) :
    readDecimal? (whole ++ scale) = some (Nat.ofDigitChars 10 whole 0, exponent) := by
  rw [readDecimal?_eq_some_iff, ← ofDigits_digitValues]
  exact .whole plain.spelled (digitValues_ne_nil nonempty) scaled

theorem readDecimal?_point {whole fraction scale : List Char} {exponent : Int}
    (nonempty : whole ≠ []) (plain : AreDigits whole) (plain' : AreDigits fraction)
    (scaled : IsExponent scale exponent) :
    readDecimal? (whole ++ '.' :: (fraction ++ scale)) =
      some (Nat.ofDigitChars 10 (whole ++ fraction) 0, exponent - fraction.length) := by
  have some : digitValues whole ++ digitValues fraction ≠ [] :=
    List.append_ne_nil_of_left_ne_nil (digitValues_ne_nil nonempty) _
  have shape := IsDecimal.pointed plain.spelled plain'.spelled some scaled
  rw [digitValues, digitValues, ← List.map_append, List.length_map] at shape
  rw [readDecimal?_eq_some_iff, ← ofDigits_digitValues]
  exact shape

/-- The exponent is written with a sign and no fewer than two digits. -/
theorem isExponent_writeExponent (exponent : Int) :
    IsExponent (writeExponent exponent) exponent := by
  have signed : IsSign [if exponent < 0 then '-' else '+'] (decide (exponent < 0)) := by
    by_cases below : exponent < 0
    · simpa [below] using IsSign.minus
    · simpa [below] using IsSign.plus
  have plain := (areDigits_zeros (2 - (Nat.toDigits 10 exponent.natAbs).length)).append
    (areDigits_toDigits exponent.natAbs)
  have shape := IsExponent.written (.inl rfl) signed plain.spelled
    (digitValues_ne_nil (List.append_ne_nil_of_right_ne_nil _ Nat.toDigits_ne_nil))
  rwa [value_padded] at shape

theorem isBlank_writeExponent (exponent : Int) :
    ∀ c ∈ writeExponent exponent, isBlank c = false := by
  intro c member
  simp only [writeExponent, List.cons_append, List.mem_cons, List.mem_append] at member
  rcases member with rfl | rfl | member | member
  · rfl
  · split <;> rfl
  · exact isBlank_digit (areDigits_zeros _ c member)
  · exact isBlank_digit (areDigits_toDigits _ c member)

/-- The number that digits with a point stand for, under a sign. -/
def Digits.rounded (number : Digits) (negative : Bool) : Binary64 :=
  .ofDecimal negative (Nat.ofDigitChars 10 number.digits 0) (number.point - number.digits.length)

structure Digits.IsPlain (number : Digits) : Prop where
  nonempty : number.digits ≠ []
  plain : AreDigits number.digits

/-- A text that reads as a decimal and is rounded to the number of the digits. -/
def Digits.ReadFrom (number : Digits) (text : List Char) : Prop :=
  ∃ coefficient exponent, Spells text coefficient exponent ∧
    ∀ negative, Binary64.ofDecimal negative coefficient exponent = number.rounded negative

private theorem isWord_append {first second : List Char} (word : IsWord first)
    (solid : ∀ c ∈ second, isBlank c = false) : IsWord (first ++ second) := by
  constructor
  · simp [word.nonempty]
  · intro c member
    rcases List.mem_append.1 member with inside | inside
    · exact word.solid c inside
    · exact solid c inside

private theorem isWord_point {whole fraction : List Char} (nonempty : whole ≠ [])
    (plain : AreDigits whole) (plain' : AreDigits fraction) :
    IsWord (whole ++ '.' :: fraction) := by
  apply isWord_append (isWord_digits nonempty plain)
  intro c member
  rcases List.mem_cons.1 member with rfl | inside
  · rfl
  · exact isBlank_digit (plain' c inside)

private theorem digit_head {whole : List Char} (nonempty : whole ≠ []) (plain : AreDigits whole)
    (tail : List Char) : ∀ c ∈ (whole ++ tail).head?, c.isDigit = true := by
  intro c first
  obtain ⟨d, rest, rfl⟩ := List.exists_cons_of_ne_nil nonempty
  simp only [List.cons_append, List.head?_cons, Option.mem_some_iff] at first
  exact plain c (by simp [first])

/-- Digits around a point, with nothing after them. -/
theorem spells_point {whole fraction : List Char} (nonempty : whole ≠ [])
    (plain : AreDigits whole) (plain' : AreDigits fraction) :
    Spells (whole ++ '.' :: fraction) (Nat.ofDigitChars 10 (whole ++ fraction) 0)
      (-fraction.length) := by
  refine ⟨digit_head nonempty plain _, isWord_point nonempty plain plain', ?_⟩
  have read := readDecimal?_point nonempty plain plain' .missing
  simpa using read

namespace Digits

variable {number : Digits}

/-- A magnitude below one: its zeros after the point count only as places. -/
theorem readFrom_small (plain : number.IsPlain) (small : number.point ≤ 0) :
    number.ReadFrom ('0' :: '.' :: zeros (-number.point) ++ number.digits) := by
  have fraction := (areDigits_zeros (-number.point)).append plain.plain
  have spelled := @spells_point ['0'] _ (by simp) (by simp [AreDigits]) fraction
  have value : Nat.ofDigitChars 10 (['0'] ++ (zeros (-number.point) ++ number.digits)) 0 =
      Nat.ofDigitChars 10 number.digits 0 := by
    simp [Nat.ofDigitChars_append, zeros, Nat.ofDigitChars_cons]
  have places : -(((zeros (-number.point) ++ number.digits).length : Nat) : Int) =
      number.point - number.digits.length := by
    simp [zeros]
    omega
  rw [value, places] at spelled
  exact ⟨_, _, spelled, fun negative => rfl⟩

/-- A whole number: its zeros at the end count only as places. -/
theorem readFrom_whole (plain : number.IsPlain) (large : number.digits.length ≤ number.point) :
    number.ReadFrom
      (number.digits ++ zeros (number.point - number.digits.length) ++ ['.', '0']) := by
  generalize padding : number.point - number.digits.length = count
  have whole := plain.plain.append (areDigits_zeros count)
  have nonempty : number.digits ++ zeros count ≠ [] := by simp [plain.nonempty]
  have spelled := @spells_point _ ['0'] nonempty whole (by simp [AreDigits])
  refine ⟨_, _, spelled, fun negative => ?_⟩
  have value : Nat.ofDigitChars 10 (number.digits ++ zeros count ++ ['0']) 0 =
      Nat.ofDigitChars 10 number.digits 0 * 10 ^ (count.toNat + 1) := by
    have zero : ['0'] = List.replicate 1 '0' := rfl
    rw [List.append_assoc, zeros, zero, List.replicate_append_replicate, Nat.ofDigitChars_append,
      Nat.ofDigitChars_replicate_zero, Nat.mul_comm]
  have places : -((['0'] : List Char).length : Int) + ((count.toNat + 1 : Nat) : Int) = count := by
    simp
    omega
  rw [value, Binary64.ofDecimal_mul_tenPow, places, rounded, padding]

theorem readFrom_between (plain : number.IsPlain) (low : 0 < number.point)
    (high : number.point < number.digits.length) :
    number.ReadFrom (number.digits.take number.point.toNat ++
      '.' :: number.digits.drop number.point.toNat) := by
  have whole := plain.plain.sublist (List.take_sublist number.point.toNat _)
  have fraction := plain.plain.sublist (List.drop_sublist number.point.toNat _)
  have nonempty : number.digits.take number.point.toNat ≠ [] := by
    have inside : 0 < number.point.toNat := by omega
    simp [plain.nonempty]
    omega
  refine ⟨_, _, spells_point nonempty whole fraction, fun negative => ?_⟩
  have places : -(((number.digits.drop number.point.toNat).length : Nat) : Int) =
      number.point - number.digits.length := by
    simp
    omega
  rw [List.take_append_drop, places, rounded]

theorem readFrom_scientific (plain : number.IsPlain) : number.ReadFrom (scientific number) := by
  have scaled := isExponent_writeExponent (number.point - 1)
  have exponentSolid := isBlank_writeExponent (number.point - 1)
  obtain ⟨first, fraction, shape⟩ := List.exists_cons_of_ne_nil plain.nonempty
  have digits : AreDigits (first :: fraction) := shape ▸ plain.plain
  have whole : AreDigits [first] := digits.sublist (by simp)
  have behind : AreDigits fraction := digits.sublist (by simp)
  have places : number.point - 1 - (fraction.length : Int) =
      number.point - number.digits.length := by
    simp [shape]
    omega
  by_cases none : fraction = []
  · have text : scientific number = [first] ++ writeExponent (number.point - 1) := by
      simp [scientific, shape, none]
    have word := isWord_append (isWord_digits (by simp) whole) exponentSolid
    have read := readDecimal?_whole (by simp) whole scaled
    rw [text]
    refine ⟨_, _, ⟨digit_head (by simp) whole _, word, read⟩, fun negative => ?_⟩
    rw [rounded, ← places, shape, none, List.length_nil, Int.natCast_zero, Int.sub_zero]
  · have text : scientific number =
        [first] ++ '.' :: (fraction ++ writeExponent (number.point - 1)) := by
      simp [scientific, shape, none]
    have word := isWord_append (isWord_point (by simp) whole behind) exponentSolid
    have read := readDecimal?_point (by simp) whole behind scaled
    rw [text]
    refine ⟨_, _, ⟨digit_head (by simp) whole _, by simpa using word, read⟩, fun negative => ?_⟩
    rw [rounded, ← places, shape, List.singleton_append]

theorem readFrom_write (plain : number.IsPlain) : number.ReadFrom (Layout.exact.write number) := by
  unfold Layout.write
  split
  next =>
    unfold Layout.positional
    split
    next small => exact readFrom_small plain small
    next above =>
      split
      next large => exact readFrom_whole plain large
      next => exact readFrom_between plain (by omega) (by omega)
  next => exact readFrom_scientific plain

theorem dropTrailingZeros_append (digits : List Char) :
    ∃ count, digits = dropTrailingZeros digits ++ List.replicate count '0' := by
  have parts := List.takeWhile_append_dropWhile (p := (· == '0')) (l := digits.reverse)
  have all : ∀ c ∈ digits.reverse.takeWhile (· == '0'), c = '0' := by
    intro c member
    have taken := List.all_eq_true.1 (List.all_takeWhile (p := (· == '0')) (l := digits.reverse))
    simpa using taken c member
  refine ⟨(digits.reverse.takeWhile (· == '0')).length, ?_⟩
  rw [← List.reverse_replicate, ← List.eq_replicate_of_mem all, dropTrailingZeros,
    ← List.reverse_append, parts, List.reverse_reverse]

theorem isPlain_ofDecimal (coefficient : Nat) (exponent : Int) :
    (Digits.ofDecimal coefficient exponent).IsPlain := by
  unfold Digits.ofDecimal
  simp only
  split
  next => exact ⟨by simp, by simp [AreDigits]⟩
  next nonzero =>
    obtain ⟨count, parts⟩ := dropTrailingZeros_append (Nat.toDigits 10 coefficient)
    have digits := areDigits_toDigits coefficient
    refine ⟨?_, ?_⟩
    · intro none
      have value := Nat.ofDigitChars_ten_toDigits (n := coefficient)
      change dropTrailingZeros _ = [] at none
      rw [parts, none, List.nil_append, Nat.ofDigitChars_replicate_zero] at value
      exact nonzero value.symm
    · rw [parts] at digits
      exact digits.sublist (List.sublist_append_left _ _)

theorem rounded_ofDecimal (coefficient : Nat) (exponent : Int) (negative : Bool) :
    (Digits.ofDecimal coefficient exponent).rounded negative =
      Binary64.ofDecimal negative coefficient exponent := by
  unfold Digits.ofDecimal
  simp only
  split
  next zero => simp [rounded, zero, Binary64.ofDecimal, Nat.ofDigitChars_cons]
  next =>
    obtain ⟨count, parts⟩ := dropTrailingZeros_append (Nat.toDigits 10 coefficient)
    have value := Nat.ofDigitChars_ten_toDigits (n := coefficient)
    have length := congrArg List.length parts
    generalize dropTrailingZeros (Nat.toDigits 10 coefficient) = digits at parts length ⊢
    rw [parts, Nat.ofDigitChars_append, Nat.ofDigitChars_replicate_zero, Nat.mul_comm] at value
    simp only [List.length_append, List.length_replicate] at length
    have places : ((Nat.toDigits 10 coefficient).length : Int) + exponent - digits.length =
        exponent + count := by omega
    rw [rounded, places, ← Binary64.ofDecimal_mul_tenPow, value]

end Digits

end Decimals

namespace Binary64

/-- The text of a magnitude is rounded to that magnitude when it is read. -/
theorem spells_shortestDigits (rank : Fin infinityRank) :
    ∃ coefficient exponent,
      Spells (Layout.exact.write (shortestDigits rank)) coefficient exponent ∧
      ∀ negative, ofDecimal negative coefficient exponent = finite negative rank := by
  have plain : (shortestDigits rank).IsPlain := Digits.isPlain_ofDecimal _ _
  obtain ⟨coefficient, exponent, spelled, value⟩ := Digits.readFrom_write plain
  refine ⟨coefficient, exponent, spelled, fun negative => ?_⟩
  rw [value, shortestDigits, Digits.rounded_ofDecimal]
  exact ofDecimal_of_readsBack rank.isLt (readsBack_shortestDecimal rank.isLt) negative

theorem readReal?_write (x : Binary64) :
    ∃ numeral, readReal? x.write = some numeral ∧ numeral.value? = some x := by
  cases x with
  | finite negative rank =>
    obtain ⟨coefficient, exponent, spelled, value⟩ := spells_shortestDigits rank
    exact ⟨_, readReal?_spelled spelled negative, by rw [RealNumeral.value?, value]⟩
  | infinite negative =>
    cases negative with
    | true => exact ⟨.infinity true, by decide, rfl⟩
    | false => exact ⟨.infinity false, by decide, rfl⟩
  | nan => exact ⟨.nan, by decide, rfl⟩

theorem isWord_write (x : Binary64) : IsWord x.write := by
  cases x with
  | finite negative rank =>
    obtain ⟨coefficient, exponent, spelled, value⟩ := spells_shortestDigits rank
    refine ⟨?_, ?_⟩
    · intro none
      exact spelled.word.nonempty (List.append_eq_nil_iff.1 none).2
    · intro c member
      rcases List.mem_append.1 member with sign | inside
      · exact isBlank_signText negative c sign
      · exact spelled.word.solid c inside
  | infinite negative => cases negative <;> exact isWord_of_all rfl
  | nan => exact isWord_of_all rfl

end Binary64

end Atomistic.Number
