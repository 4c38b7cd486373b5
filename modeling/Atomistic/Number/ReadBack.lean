import Atomistic.Number.Decimal

/-! Digits read back. A quotient that is a magnitude rounds to that magnitude, so exact digits
read back; the shortest digits are tried by reading them, or they are the exact ones. -/

namespace Atomistic.Number.Binary64

/-- A magnitude is a whole number below 2⁵³, doubled as often as its binary exponent says. -/
theorem units_eq (rank : Nat) :
    ∃ significand, units rank = significand * 2 ^ (Nat.log2 (units rank) - 52) ∧
      rank = (Nat.log2 (units rank) - 52) * 2 ^ (52 : Nat) + significand := by
  by_cases small : rank < 2 ^ (53 : Nat)
  · have same : units rank = rank := if_pos small
    have low : Nat.log2 rank - 52 = 0 := by
      by_cases none : rank = 0
      · simp [none]
      · have := (Nat.log2_lt none).2 small
        omega
    exact ⟨rank, by simp [same, low], by simp [same, low]⟩
  · have large : 2 ^ (53 : Nat) ≤ rank := Nat.le_of_not_lt small
    have spread : units rank =
        (rank - (rank / 2 ^ (52 : Nat) - 1) * 2 ^ (52 : Nat)) *
          2 ^ (rank / 2 ^ (52 : Nat) - 1) := if_neg small
    generalize doubled : rank / 2 ^ (52 : Nat) - 1 = doublings at spread
    have least : 2 ^ (52 : Nat) ≤ rank - doublings * 2 ^ (52 : Nat) := by omega
    have most : rank - doublings * 2 ^ (52 : Nat) < 2 ^ (53 : Nat) := by omega
    generalize held : rank - doublings * 2 ^ (52 : Nat) = significand at spread least most
    have exponent : Nat.log2 (units rank) = 52 + doublings := by
      have nonzero : units rank ≠ 0 := by
        rw [spread]
        exact Nat.mul_ne_zero (by omega) (Nat.ne_of_gt (Nat.two_pow_pos _))
      apply Nat.le_antisymm
      · apply Nat.le_of_lt_succ
        rw [Nat.log2_lt nonzero, spread, show (52 + doublings).succ = 53 + doublings by omega,
          Nat.pow_add]
        exact Nat.mul_lt_mul_of_pos_right most (Nat.two_pow_pos _)
      · rw [Nat.le_log2 nonzero, spread, Nat.pow_add]
        exact Nat.mul_le_mul_right _ least
    refine ⟨significand, ?_, ?_⟩
    · rw [exponent, Nat.add_sub_cancel_left]
      exact spread
    · rw [exponent, Nat.add_sub_cancel_left]
      omega

/-- A quotient that is a magnitude rounds to it. -/
theorem nearestRank_of_units {numerator denominator rank : Nat} (pos : 0 < denominator)
    (exact : numerator * 2 ^ (1074 : Nat) = units rank * denominator) :
    nearestRank numerator denominator = rank := by
  obtain ⟨significand, spread, place⟩ := units_eq rank
  simp only [nearestRank, exact, Nat.mul_div_cancel _ pos]
  generalize Nat.log2 (units rank) - 52 = doublings at spread place
  rw [spread, place, Nat.mul_assoc, Nat.mul_comm (2 ^ doublings),
    roundHalfEven_mul_self _ (Nat.mul_pos pos (Nat.two_pow_pos _))]

theorem units_pos {rank : Nat} (nonzero : rank ≠ 0) : 0 < units rank := by
  obtain ⟨significand, spread, place⟩ := units_eq rank
  rw [spread]
  apply Nat.mul_pos _ (Nat.two_pow_pos _)
  apply Nat.pos_of_ne_zero
  intro vanishes
  rw [spread, vanishes] at place
  simp at place
  exact nonzero place

/-- Below the point a coefficient is divided by a power of ten. -/
theorem ofDecimal_below (negative : Bool) {coefficient places : Nat} (nonzero : coefficient ≠ 0)
    (below : 0 < places) :
    ofDecimal negative coefficient (-(places : Int)) =
      if Nat.log2 coefficient + 1101 ≤ 3 * places then ofRank negative 0
      else ofRatio negative coefficient (10 ^ places) := by
  have sign : ¬ (0 : Int) ≤ -(places : Int) := by omega
  simp only [ofDecimal, nonzero, sign, if_false, Int.neg_neg, Int.toNat_natCast]

private theorem mul_fivePow_ne_zero {factor : Nat} (pos : 0 < factor) (places : Nat) :
    factor * 5 ^ places ≠ 0 :=
  Nat.ne_of_gt (Nat.mul_pos pos (Nat.pow_pos (by decide)))

private theorem two_mul_le_log2 {factor : Nat} (pos : 0 < factor) (places : Nat) :
    2 * places ≤ Nat.log2 (factor * 5 ^ places) := by
  have powers : (2 ^ (2 : Nat)) ^ places ≤ 5 ^ places := Nat.pow_le_pow_left (by decide) places
  have large : 5 ^ places ≤ factor * 5 ^ places := Nat.le_mul_of_pos_left _ pos
  rw [Nat.le_log2 (mul_fivePow_ne_zero pos places), Nat.pow_mul]
  exact Nat.le_trans powers large

private theorem tenPow_pos (places : Nat) : 0 < 10 ^ places :=
  Nat.pow_pos (by decide)

private theorem mul_tenPow (factor places : Nat) :
    factor * 5 ^ places * 2 ^ places = factor * 10 ^ places := by
  rw [Nat.mul_assoc, ← Nat.mul_pow]

theorem ofDecimal_exactDecimal {rank : Nat} (nonzero : rank ≠ 0)
    (inside : rank < infinityRank) :
    ofDecimal false (exactDecimal rank).1 (exactDecimal rank).2 = finite false ⟨rank, inside⟩ := by
  have rounded : nearestRank (units rank * 5 ^ (1074 : Nat)) (10 ^ (1074 : Nat)) = rank :=
    nearestRank_of_units (tenPow_pos 1074) (mul_tenPow (units rank) 1074)
  have some := mul_fivePow_ne_zero (units_pos nonzero) 1074
  have log := two_mul_le_log2 (units_pos nonzero) 1074
  change ofDecimal false (units rank * 5 ^ (1074 : Nat)) (-((1074 : Nat) : Int)) = _
  rw [ofDecimal_below false some (by decide), if_neg (by omega), ofRatio, rounded, ofRank,
    dif_pos inside]

theorem readsBack_exactDecimal {rank : Nat} (nonzero : rank ≠ 0) (inside : rank < infinityRank) :
    readsBack rank (exactDecimal rank).1 (exactDecimal rank).2 = true := by
  rw [readsBack, ofDecimal_exactDecimal nonzero inside]
  exact beq_self_eq_true rank

theorem readsBack_of_hit? {rank : Nat} {grid : Int} {decimal : Nat × Int}
    (hit : hit? rank grid = some decimal) : readsBack rank decimal.1 decimal.2 = true := by
  unfold hit? at hit
  split at hit
  next near => cases hit; exact near
  next =>
    split at hit
    next far => cases hit; exact far
    next => cases hit

/-- The shortest digits of a magnitude read back as the magnitude. -/
theorem readsBack_shortestDecimal {rank : Nat} (inside : rank < infinityRank) :
    readsBack rank (shortestDecimal rank).1 (shortestDecimal rank).2 = true := by
  unfold shortestDecimal
  split
  next none => subst none; rfl
  next nonzero =>
    cases found : shortestHit? rank with
    | none => exact readsBack_exactDecimal nonzero inside
    | some decimal =>
      obtain ⟨count, _, hit⟩ := List.exists_of_findSome?_eq_some found
      exact readsBack_of_hit? hit

end Atomistic.Number.Binary64
