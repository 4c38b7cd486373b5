import Mathlib.Algebra.Order.Field.Basic
import Mathlib.Algebra.Order.Ring.Abs
import Mathlib.Data.Rat.Cast.Order
import Mathlib.Tactic.NormNum.Ineq
import Mathlib.Tactic.NormNum.Pow
import Mathlib.Tactic.NormNum.Inv
import Atomistic.Proofs.FrameGrammar
import Atomistic.Proofs.NearestRank

/-! The flag of a fixed atom as a number. A numeral stands for an exact number, and is read as
the nearest of the numbers that are kept. So a flag says zero or one if its numeral is near
enough, and the bounds of that are the midpoints to the neighbours. -/

namespace Atomistic

open Number Text

namespace Number

/-- The exact number that a decimal is. -/
def decimalValue (negative : Bool) (coefficient : Nat) (exponent : Int) : ℚ :=
  (if negative then -1 else 1) * (coefficient * 10 ^ exponent)

/-- A token that is a decimal, and the exact number that it stands for. -/
inductive StandsFor : List Char → ℚ → Prop where
  | decimal {sign body : List Char} {negative : Bool} {coefficient : Nat} {exponent : Int}
      (signed : IsSign sign negative) (shape : IsDecimal body coefficient exponent) :
      StandsFor (sign ++ body) (decimalValue negative coefficient exponent)

/-- The number is at most half the least magnitude away from zero. -/
def NearZero (value : ℚ) : Prop :=
  |value| ≤ 1 / 2 ^ 1075

/-- The number is no further from one than the midpoints to its two neighbours. -/
def NearOne (value : ℚ) : Prop :=
  1 - 1 / 2 ^ 54 ≤ value ∧ value ≤ 1 + 1 / 2 ^ 53

theorem decimalValue_eq_zero_iff {negative : Bool} {coefficient : Nat} {exponent : Int} :
    decimalValue negative coefficient exponent = 0 ↔ coefficient = 0 := by
  have power : (10 : ℚ) ^ exponent ≠ 0 := zpow_ne_zero _ (by norm_num)
  cases negative <;> simp [decimalValue, power]

section Quotients

theorem decimalValue_eq_div (negative : Bool) (coefficient : Nat) (exponent : Int) :
    decimalValue negative coefficient exponent = (if negative then -1 else 1) *
      (((coefficient * 10 ^ exponent.toNat : Nat) : ℚ) / ((10 ^ (-exponent).toNat : Nat) : ℚ)) := by
  unfold decimalValue
  congr 1
  cases exponent with
  | ofNat places => simp
  | negSucc places => simp [zpow_negSucc, div_eq_mul_inv]

variable {numerator denominator : Nat}

private theorem div_le_div_iff_nat {other factor : Nat} (pos : 0 < denominator)
    (pos' : 0 < factor) :
    (numerator : ℚ) / denominator ≤ other / factor ↔
      numerator * factor ≤ other * denominator := by
  rw [div_le_div_iff₀ (Nat.cast_pos.2 pos) (Nat.cast_pos.2 pos')]
  exact_mod_cast Iff.rfl

private theorem div_le_twoPow_iff (pos : 0 < denominator) (bits : Nat) :
    (numerator : ℚ) / denominator ≤ 1 / 2 ^ (bits + 1) ↔
      2 * (numerator * 2 ^ bits) ≤ denominator := by
  have power : (1 : ℚ) / 2 ^ (bits + 1) = ((1 : Nat) : ℚ) / ((2 ^ (bits + 1) : Nat) : ℚ) := by simp
  rw [power, div_le_div_iff_nat pos (Nat.two_pow_pos _), Nat.one_mul, Nat.pow_succ,
    ← Nat.mul_assoc, Nat.mul_comm 2]

theorem nearZero_iff (pos : 0 < denominator) (negative : Bool) :
    NearZero ((if negative then -1 else 1) * ((numerator : ℚ) / denominator)) ↔
      2 * (numerator * 2 ^ (1074 : Nat)) ≤ denominator := by
  have size : |(if negative then -1 else 1) * ((numerator : ℚ) / denominator)| =
      (numerator : ℚ) / denominator := by
    have quotient : 0 ≤ (numerator : ℚ) / denominator :=
      div_nonneg (Nat.cast_nonneg _) (Nat.cast_nonneg _)
    cases negative <;> simp [abs_of_nonneg quotient]
  rw [NearZero, size]
  exact div_le_twoPow_iff pos 1074

theorem nearOne_iff (pos : 0 < denominator) :
    NearOne ((numerator : ℚ) / denominator) ↔
      (2 ^ (54 : Nat) - 1) * denominator ≤ numerator * 2 ^ (54 : Nat) ∧
        numerator * 2 ^ (53 : Nat) ≤ (2 ^ (53 : Nat) + 1) * denominator := by
  have lower : (1 : ℚ) - 1 / 2 ^ 54 =
      ((2 ^ (54 : Nat) - 1 : Nat) : ℚ) / ((2 ^ (54 : Nat) : Nat) : ℚ) := by norm_num
  have upper : (1 : ℚ) + 1 / 2 ^ 53 =
      ((2 ^ (53 : Nat) + 1 : Nat) : ℚ) / ((2 ^ (53 : Nat) : Nat) : ℚ) := by norm_num
  rw [NearOne, lower, upper, div_le_div_iff_nat (Nat.two_pow_pos _) pos,
    div_le_div_iff_nat pos (Nat.two_pow_pos _)]

theorem not_nearOne_of_nonpos {value : ℚ} (nonpos : value ≤ 0) : ¬ NearOne value := by
  intro near
  have positive : (0 : ℚ) < 1 - 1 / 2 ^ 54 := by norm_num
  exact absurd (positive.trans_le near.1) (not_lt.2 nonpos)

end Quotients

namespace Binary64

theorem zero_eq_finite : zero = finite false ⟨0, by decide⟩ := by
  unfold zero ofRank
  exact dif_pos _

theorem one_eq_finite : one = finite false ⟨oneRank, by decide⟩ := by
  have rank : nearestRank 1 1 = oneRank := (nearestRank_eq_oneRank_iff Nat.one_pos).2 (by decide)
  rw [one, ofRatio, rank]
  exact dif_pos (by decide)

private theorem ofRank_equals_iff {negative : Bool} {rank : Nat} {known : Fin infinityRank} :
    (ofRank negative rank).equals (finite false known) = true ↔
      rank = known ∧ (negative = false ∨ rank = 0) := by
  unfold ofRank
  split
  next inside => simp [equals, Fin.ext_iff]
  next beyond =>
    have other : rank ≠ known := by omega
    simp [equals, other]

/-- A decimal is read as zero if it is near enough to zero. -/
theorem ofDecimal_equals_zero_iff {negative : Bool} {coefficient : Nat} {exponent : Int} :
    (ofDecimal negative coefficient exponent).equals .zero = true ↔
      NearZero (decimalValue negative coefficient exponent) := by
  have pos : 0 < 10 ^ (-exponent).toNat := Nat.pow_pos (by decide)
  rw [ofDecimal_eq_ofRatio, ofRatio, zero_eq_finite, ofRank_equals_iff, decimalValue_eq_div,
    nearZero_iff pos, ← nearestRank_eq_zero_iff pos]
  exact and_iff_left_of_imp .inr

theorem ofDecimal_equals_one_iff {negative : Bool} {coefficient : Nat} {exponent : Int} :
    (ofDecimal negative coefficient exponent).equals .one = true ↔
      NearOne (decimalValue negative coefficient exponent) := by
  have pos : 0 < 10 ^ (-exponent).toNat := Nat.pow_pos (by decide)
  rw [ofDecimal_eq_ofRatio, ofRatio, one_eq_finite, ofRank_equals_iff, decimalValue_eq_div]
  cases negative with
  | false =>
    rw [if_neg Bool.false_ne_true, one_mul, nearOne_iff pos, ← nearestRank_eq_oneRank_iff pos]
    exact and_iff_left (.inl rfl)
  | true =>
    have quotient : 0 ≤ ((coefficient * 10 ^ exponent.toNat : Nat) : ℚ) /
        ((10 ^ (-exponent).toNat : Nat) : ℚ) :=
      div_nonneg (Nat.cast_nonneg _) (Nat.cast_nonneg _)
    have far := not_nearOne_of_nonpos (neg_nonpos.2 quotient)
    rw [if_pos rfl, neg_one_mul]
    refine iff_of_false ?_ far
    intro held
    obtain ⟨same, sign | none⟩ := held
    · cases sign
    · exact absurd (none.symm.trans same) (by decide)

end Binary64

section Tokens

variable {token : List Char} {value : ℚ}

theorem standsFor_iff :
    StandsFor token value ↔ ∃ negative coefficient exponent,
      readReal? token = some (.decimal negative coefficient exponent) ∧
        value = decimalValue negative coefficient exponent := by
  refine ⟨fun stands => ?_, fun found => ?_⟩
  · obtain ⟨signed, shape⟩ := stands
    exact ⟨_, _, _, readReal?_eq_decimal_iff.2 ⟨_, _, rfl, signed, shape⟩, rfl⟩
  · obtain ⟨negative, coefficient, exponent, read, rfl⟩ := found
    obtain ⟨sign, body, rfl, signed, shape⟩ := readReal?_eq_decimal_iff.1 read
    exact .decimal signed shape

theorem StandsFor.eq_of_readReal? (stands : StandsFor token value) {negative : Bool}
    {coefficient : Nat} {exponent : Int}
    (read : readReal? token = some (.decimal negative coefficient exponent)) :
    value = decimalValue negative coefficient exponent := by
  obtain ⟨_, _, _, again, rfl⟩ := standsFor_iff.1 stands
  cases read.symm.trans again
  rfl

/-- A token stands for one number at most. -/
theorem StandsFor.unique {other : ℚ} (first : StandsFor token value)
    (second : StandsFor token other) : value = other := by
  obtain ⟨_, _, _, read, rfl⟩ := standsFor_iff.1 second
  exact first.eq_of_readReal? read

/-- A token that is read as a finite number is a decimal: infinity and nan equal none. -/
theorem exists_isReal_equals_iff {known : Binary64} {near : ℚ → Prop}
    (finite : ∃ negative rank, known = .finite negative rank)
    (decides : ∀ negative coefficient exponent,
      (Binary64.ofDecimal negative coefficient exponent).equals known = true ↔
        near (decimalValue negative coefficient exponent)) :
    (∃ found, IsReal token found ∧ found.equals known = true) ↔
      ∃ value, StandsFor token value ∧ near value := by
  refine ⟨fun read => ?_, fun found => ?_⟩
  · obtain ⟨found, real, equal⟩ := read
    obtain ⟨negative, rank, rfl⟩ := finite
    cases real with
    | decimal signed shape => exact ⟨_, .decimal signed shape, (decides _ _ _).1 equal⟩
    | infinity signed word => cases equal
    | nan signed word => cases equal
  · obtain ⟨value, stands, close⟩ := found
    obtain ⟨signed, shape⟩ := stands
    exact ⟨_, .decimal signed shape, (decides _ _ _).2 close⟩

end Tokens

end Number

namespace FrameField

variable {token : Line}

theorem isFlag_false_iff :
    IsFlag token false ↔ ∃ value, StandsFor token value ∧ NearZero value := by
  have reads := @exists_isReal_equals_iff token _ _ ⟨_, _, Binary64.zero_eq_finite⟩ fun _ _ _ =>
    Binary64.ofDecimal_equals_zero_iff
  refine ⟨fun flag => ?_, fun found => ?_⟩
  · cases flag with
    | zero =>
      have digit : StandsFor ['0'] (decimalValue false 0 0) :=
        standsFor_iff.2 ⟨_, _, _, by decide +kernel, rfl⟩
      exact ⟨_, digit, by simp [decimalValue, NearZero]⟩
    | realZero real equal => exact reads.1 ⟨_, real, equal⟩
  · obtain ⟨found, real, equal⟩ := reads.2 found
    exact .realZero real equal

theorem isFlag_true_iff :
    IsFlag token true ↔ ∃ value, StandsFor token value ∧ NearOne value := by
  have reads := @exists_isReal_equals_iff token _ _ ⟨_, _, Binary64.one_eq_finite⟩ fun _ _ _ =>
    Binary64.ofDecimal_equals_one_iff
  refine ⟨fun flag => ?_, fun found => ?_⟩
  · cases flag with
    | one =>
      have digit : StandsFor ['1'] (decimalValue false 1 0) :=
        standsFor_iff.2 ⟨_, _, _, by decide +kernel, rfl⟩
      exact ⟨_, digit, by norm_num [decimalValue, NearOne]⟩
    | realOne real equal => exact reads.1 ⟨_, real, equal⟩
  · obtain ⟨found, real, equal⟩ := reads.2 found
    exact .realOne real equal

theorem not_isFlag_nil (isFixed : Bool) : ¬ IsFlag [] isFixed := by
  have none : ∀ found, ¬ IsReal [] found := by
    intro found real
    obtain ⟨numeral, read, -⟩ := isReal_iff.1 real
    cases read
  intro flag
  cases flag with
  | realZero real equal => exact none _ real
  | realOne real equal => exact none _ real

theorem dropFinalNewline_of_solid (solid : ∀ c ∈ token, isBlank c = false) :
    dropFinalNewline token = token := by
  by_cases empty : token = []
  · rw [empty]
    rfl
  · exact dropFinalNewline_word ⟨empty, solid⟩

theorem readFlag_eq_ok_iff_of_solid (solid : ∀ c ∈ token, isBlank c = false) {isFixed : Bool} :
    readFlag token = .ok isFixed ↔ IsFlag token isFixed := by
  by_cases empty : token = []
  · have refused : readFlag [] = complain (.notFlag []) := by decide +kernel
    rw [empty, refused]
    exact iff_of_false nofun (not_isFlag_nil isFixed)
  · exact readFlag_eq_ok_iff ⟨empty, solid⟩

/-- A token that is refused is no flag, unless it has the shape of a numeral and no value. -/
theorem readFlag_cases (solid : ∀ c ∈ token, isBlank c = false)
    (valued : readReal? token ≠ some .dottedInfinity) :
    (∃ isFixed, readFlag token = .ok isFixed) ∨ readFlag token = complain (.notFlag token) := by
  unfold readFlag
  rw [dropFinalNewline_of_solid solid]
  split
  next => exact .inl ⟨false, rfl⟩
  next =>
    split
    next => exact .inl ⟨true, rfl⟩
    next =>
      split
      next numeral read =>
        obtain ⟨value, meant⟩ : ∃ value, numeral.value? = some value := by
          cases numeral with
          | dottedInfinity => exact absurd read valued
          | decimal negative coefficient exponent => exact ⟨_, rfl⟩
          | infinity negative => exact ⟨_, rfl⟩
          | nan => exact ⟨_, rfl⟩
        rw [realValue, meant, Option.elim_some, ok_bind]
        split
        next => exact .inl ⟨false, rfl⟩
        next =>
          split
          next => exact .inl ⟨true, rfl⟩
          next => exact .inr rfl
      next => exact .inr rfl

/-- A flag on a line says zero or one exactly if it is a decimal near enough to that number.
Every other token is refused, and the fault names the line. -/
theorem readFlag_nearest {token : Line} (solid : ∀ c ∈ token, isBlank c = false) (line : Nat) :
    ((readFlag token).mapError (Fault.atLine line) = .ok false ↔
      ∃ value, StandsFor token value ∧ NearZero value) ∧
    ((readFlag token).mapError (Fault.atLine line) = .ok true ↔
      ∃ value, StandsFor token value ∧ NearOne value) ∧
    (FormatCause.notFlag token).category = .number ∧
    (readReal? token ≠ some .dottedInfinity →
      ((readFlag token).mapError (Fault.atLine line) =
          .error (.format ⟨.notFlag token, some line⟩) ↔
        ∀ value, StandsFor token value → ¬ NearZero value ∧ ¬ NearOne value)) := by
  have free : readFlag token = .ok false ↔ ∃ value, StandsFor token value ∧ NearZero value :=
    (readFlag_eq_ok_iff_of_solid solid).trans isFlag_false_iff
  have fixed : readFlag token = .ok true ↔ ∃ value, StandsFor token value ∧ NearOne value :=
    (readFlag_eq_ok_iff_of_solid solid).trans isFlag_true_iff
  refine ⟨mapError_eq_ok_iff.trans free, mapError_eq_ok_iff.trans fixed, rfl, fun valued => ?_⟩
  refine ⟨fun refused value stands => ⟨fun near => ?_, fun near => ?_⟩, fun apart => ?_⟩
  · rw [free.2 ⟨value, stands, near⟩] at refused
    cases refused
  · rw [fixed.2 ⟨value, stands, near⟩] at refused
    cases refused
  · obtain ⟨isFixed, done⟩ | refused := readFlag_cases solid valued
    · cases isFixed with
      | false =>
        obtain ⟨value, stands, near⟩ := free.1 done
        exact absurd near (apart value stands).1
      | true =>
        obtain ⟨value, stands, near⟩ := fixed.1 done
        exact absurd near (apart value stands).2
    · rw [refused]
      rfl

theorem readFlag_nearest_half :
    (∀ c ∈ "0.5".toList, isBlank c = false) ∧
      (readFlag "0.5".toList).mapError (Fault.atLine 3) =
        .error (.format ⟨.notFlag "0.5".toList, some 3⟩) := by
  have solid := (@isWord_of_all "0.5".toList (by decide)).solid
  have read : readReal? "0.5".toList = some (.decimal false 5 (-1)) := by decide +kernel
  refine ⟨solid, ((readFlag_nearest solid 3).2.2.2 ?_).2 ?_⟩
  · rw [read]
    nofun
  · intro value stands
    rw [stands.eq_of_readReal? read]
    refine ⟨Binary64.ofDecimal_equals_zero_iff.not.1 ?_, Binary64.ofDecimal_equals_one_iff.not.1 ?_⟩
    · decide +kernel
    · decide +kernel

/-- A number that is not zero and is read as zero, one below one that is read as one, and an
infinity word with a dotless i, which is refused as a value and not as a flag. -/
theorem readFlag_not_exact :
    (readFlag "1e-400".toList = .ok false ∧ StandsFor "1e-400".toList (1 / 10 ^ 400) ∧
        ¬ StandsFor "1e-400".toList 0) ∧
      (readFlag "0.99999999999999999999".toList = .ok true ∧
        StandsFor "0.99999999999999999999".toList (1 - 1 / 10 ^ 20) ∧
        ¬ StandsFor "0.99999999999999999999".toList 1) ∧
      readFlag "ınf".toList = .error (.value (.notNumeral "ınf")) := by
  have tiny : readReal? "1e-400".toList = some (.decimal false 1 (-400)) := by decide +kernel
  have nines : readReal? "0.99999999999999999999".toList =
      some (.decimal false 99999999999999999999 (-20)) := by decide +kernel
  refine ⟨⟨by decide +kernel, ?_, fun stands => ?_⟩, ⟨by decide +kernel, ?_, fun stands => ?_⟩,
    by decide +kernel⟩
  · exact standsFor_iff.2 ⟨_, _, _, tiny, by simp [decimalValue]⟩
  · cases decimalValue_eq_zero_iff.1 (stands.eq_of_readReal? tiny).symm
  · exact standsFor_iff.2 ⟨_, _, _, nines, by norm_num [decimalValue]⟩
  · have same := stands.eq_of_readReal? nines
    norm_num [decimalValue] at same

end FrameField

end Atomistic
