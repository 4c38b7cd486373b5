import Atomistic.Number.ReadBack
import Atomistic.Proofs.NearestRank

/-! A decimal is rounded as the quotient that it is. Its spelling does not matter: zeros moved
between the coefficient and the exponent leave the quotient, and so the number, as it was. -/

namespace Atomistic.Number

theorem roundHalfEven_mul (numerator denominator : Nat) {factor : Nat} (pos : 0 < factor) :
    roundHalfEven (numerator * factor) (denominator * factor) =
      roundHalfEven numerator denominator := by
  have scaled : ∀ first second : Nat, 2 * (first * factor) < second * factor ↔
      2 * first < second := by
    intro first second
    rw [← Nat.mul_assoc, Nat.mul_lt_mul_right pos]
  have scaled' : ∀ first second : Nat, second * factor < 2 * (first * factor) ↔
      second < 2 * first := by
    intro first second
    rw [← Nat.mul_assoc, Nat.mul_lt_mul_right pos]
  simp only [roundHalfEven, Nat.mul_div_mul_right _ _ pos, Nat.mul_mod_mul_right, scaled, scaled']

namespace Binary64

theorem nearestRank_mul (numerator denominator : Nat) {factor : Nat} (pos : 0 < factor) :
    nearestRank (numerator * factor) (denominator * factor) =
      nearestRank numerator denominator := by
  have swap : numerator * factor * 2 ^ (1074 : Nat) = numerator * 2 ^ (1074 : Nat) * factor :=
    Nat.mul_right_comm _ _ _
  simp only [nearestRank, swap, Nat.mul_div_mul_right _ _ pos]
  generalize Nat.log2 (numerator * 2 ^ (1074 : Nat) / denominator) - 52 = doublings
  rw [Nat.mul_right_comm denominator, roundHalfEven_mul _ _ pos]

/-- Equal quotients round to the same magnitude. -/
theorem nearestRank_congr {numerator denominator numerator' denominator' : Nat}
    (pos : 0 < denominator) (pos' : 0 < denominator')
    (same : numerator * denominator' = numerator' * denominator) :
    nearestRank numerator denominator = nearestRank numerator' denominator' := by
  rw [← nearestRank_mul numerator denominator pos', same, Nat.mul_comm denominator,
    nearestRank_mul numerator' denominator' pos]

private theorem ten_pow_pos (places : Nat) : 0 < 10 ^ places :=
  Nat.pow_pos (by decide)

private theorem two_pow_le_ten_pow {bits places : Nat} (few : bits ≤ 3 * places) :
    2 ^ bits ≤ 10 ^ places :=
  calc 2 ^ bits ≤ 2 ^ (3 * places) := Nat.pow_le_pow_right (by decide) few
    _ = 8 ^ places := by rw [Nat.pow_mul]
    _ ≤ 10 ^ places := Nat.pow_le_pow_left (by decide) places

private theorem add_le_log2 {bits value : Nat} (large : 2 ^ bits ≤ value) (more : Nat) :
    bits + more ≤ Nat.log2 (value * 2 ^ more) := by
  have scaled : 2 ^ (bits + more) ≤ value * 2 ^ more := by
    rw [Nat.pow_add]
    exact Nat.mul_le_mul_right _ large
  have pos := Nat.lt_of_lt_of_le (Nat.two_pow_pos (bits + more)) scaled
  exact (Nat.le_log2 (Nat.ne_of_gt pos)).2 scaled

/-- From 10⁴⁰¹ on, a quotient lies beyond the finite magnitudes. -/
theorem infinityRank_le_nearestRank {coefficient places : Nat} (nonzero : coefficient ≠ 0)
    (large : 400 < places) : infinityRank ≤ nearestRank (coefficient * 10 ^ places) 1 := by
  have few : 1200 ≤ 3 * places := by omega
  have power := two_pow_le_ten_pow few
  have whole := Nat.le_trans power (Nat.le_mul_of_pos_left _ (Nat.pos_of_ne_zero nonzero))
  have exponent := add_le_log2 whole 1074
  simp only [nearestRank, Nat.div_one, infinityRank]
  generalize Nat.log2 (coefficient * 10 ^ places * 2 ^ (1074 : Nat)) = log at exponent
  generalize roundHalfEven _ _ = significand
  have doublings : 2222 ≤ log - 52 := by omega
  have spread := Nat.mul_le_mul_right (2 ^ (52 : Nat)) doublings
  omega

/-- Far below the least magnitude a quotient rounds to zero. -/
theorem nearestRank_of_tiny {coefficient places : Nat}
    (tiny : Nat.log2 coefficient + 1101 ≤ 3 * places) :
    nearestRank coefficient (10 ^ places) = 0 := by
  have below : coefficient < 2 ^ (Nat.log2 coefficient + 1) := Nat.lt_log2_self
  have few : Nat.log2 coefficient + 1 + 1074 + 1 ≤ 3 * places := by omega
  apply (nearestRank_eq_zero_iff (ten_pow_pos places)).2
  calc 2 * (coefficient * 2 ^ (1074 : Nat))
      ≤ 2 * (2 ^ (Nat.log2 coefficient + 1) * 2 ^ (1074 : Nat)) :=
        Nat.mul_le_mul_left 2 (Nat.mul_le_mul_right _ (Nat.le_of_lt below))
    _ = 2 ^ (Nat.log2 coefficient + 1 + 1074 + 1) := by
      rw [← Nat.pow_add, ← Nat.pow_succ']
    _ ≤ 10 ^ places := two_pow_le_ten_pow few

theorem ofRank_of_le (negative : Bool) {rank : Nat} (beyond : infinityRank ≤ rank) :
    ofRank negative rank = infinite negative :=
  dif_neg (Nat.not_lt.2 beyond)

/-- The shortcuts for decimals far outside the finite magnitudes round as every other decimal
does. -/
theorem ofDecimal_eq_ofRatio (negative : Bool) (coefficient : Nat) (exponent : Int) :
    ofDecimal negative coefficient exponent =
      ofRatio negative (coefficient * 10 ^ exponent.toNat) (10 ^ (-exponent).toNat) := by
  unfold ofDecimal
  split
  next zero =>
    have vanishes : 2 * (0 * 10 ^ exponent.toNat * 2 ^ (1074 : Nat)) ≤ 10 ^ (-exponent).toNat := by
      simp only [Nat.zero_mul, Nat.mul_zero, Nat.zero_le]
    rw [zero, ofRatio, (nearestRank_eq_zero_iff (ten_pow_pos _)).2 vanishes]
  next nonzero =>
    split
    next above =>
      have none : (-exponent).toNat = 0 := by omega
      rw [none, Nat.pow_zero]
      split
      next large =>
        have places : 400 < exponent.toNat := by omega
        rw [ofRatio, ofRank_of_le _ (infinityRank_le_nearestRank nonzero places)]
      next => rfl
    next below =>
      have none : exponent.toNat = 0 := by omega
      rw [none, Nat.pow_zero, Nat.mul_one]
      simp only
      split
      next tiny => rw [ofRatio, nearestRank_of_tiny tiny]
      next => rfl

/-- Zeros at the end of a coefficient are places of its exponent. -/
theorem ofDecimal_mul_tenPow (negative : Bool) (coefficient zeros : Nat) (exponent : Int) :
    ofDecimal negative (coefficient * 10 ^ zeros) exponent =
      ofDecimal negative coefficient (exponent + zeros) := by
  have places : zeros + exponent.toNat + (-(exponent + zeros)).toNat =
      (exponent + zeros).toNat + (-exponent).toNat := by omega
  have same : coefficient * 10 ^ zeros * 10 ^ exponent.toNat * 10 ^ (-(exponent + zeros)).toNat =
      coefficient * 10 ^ (exponent + zeros).toNat * 10 ^ (-exponent).toNat := by
    simp only [Nat.mul_assoc, ← Nat.pow_add]
    rw [places]
  rw [ofDecimal_eq_ofRatio, ofDecimal_eq_ofRatio, ofRatio, ofRatio,
    nearestRank_congr (ten_pow_pos _) (ten_pow_pos _) same]

theorem ofRank_eq_finite_iff {negative negative' : Bool} {rank : Nat} {found : Fin infinityRank} :
    ofRank negative rank = finite negative' found ↔ negative = negative' ∧ rank = found.val := by
  unfold ofRank
  split
  next inside => simp [Fin.ext_iff]
  next outside =>
    constructor
    · intro impossible
      cases impossible
    · rintro ⟨_, rfl⟩
      exact absurd found.isLt outside

/-- A decimal that reads back as a magnitude does so under either sign. -/
theorem ofDecimal_of_readsBack {rank coefficient : Nat} {exponent : Int}
    (inside : rank < infinityRank) (back : readsBack rank coefficient exponent = true)
    (negative : Bool) :
    ofDecimal negative coefficient exponent = finite negative ⟨rank, inside⟩ := by
  unfold readsBack at back
  split at back
  next sign found held =>
    rw [ofDecimal_eq_ofRatio, ofRatio, ofRank_eq_finite_iff] at held
    rw [ofDecimal_eq_ofRatio, ofRatio, ofRank_eq_finite_iff, held.2]
    exact ⟨rfl, by simpa using back⟩
  next => cases back

end Binary64

end Atomistic.Number
