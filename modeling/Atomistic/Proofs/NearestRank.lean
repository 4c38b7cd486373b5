import Mathlib.Order.Monotone.Basic
import Atomistic.Number.Binary64

/-! Which quotients round to a magnitude. They are those that lie between the midpoints to its
two neighbours; a midpoint itself goes to the magnitude of even rank. -/

namespace Atomistic.Number

/-- A rounded quotient that is odd is nearer than half a unit, since a half goes to an even one. -/
theorem roundHalfEven_near_of_odd {numerator denominator : Nat} (pos : 0 < denominator)
    (odd : roundHalfEven numerator denominator % 2 = 1) :
    2 * numerator < (2 * roundHalfEven numerator denominator + 1) * denominator ∧
      2 * (roundHalfEven numerator denominator * denominator) < 2 * numerator + denominator := by
  have parts := Nat.div_add_mod' numerator denominator
  have small := Nat.mod_lt numerator pos
  simp only [roundHalfEven] at odd ⊢
  generalize numerator / denominator = quotient at parts odd ⊢
  generalize numerator % denominator = remainder at parts small odd ⊢
  split
  next below => rw [Nat.add_mul, Nat.mul_assoc]; omega
  next =>
    split
    next above => rw [Nat.add_mul, Nat.mul_assoc, Nat.add_mul]; omega
    next below above =>
      rw [if_neg below, if_neg above] at odd
      omega

private theorem roundHalfEven_within (numerator denominator : Nat) :
    numerator / denominator ≤ roundHalfEven numerator denominator ∧
      roundHalfEven numerator denominator ≤ numerator / denominator + 1 := by
  have parity := Nat.mod_lt (numerator / denominator) (Nat.two_pos)
  simp only [roundHalfEven]
  split
  next => omega
  next => split <;> omega

theorem roundHalfEven_le {numerator denominator bound : Nat}
    (below : numerator < bound * denominator) : roundHalfEven numerator denominator ≤ bound := by
  have quotient := Nat.div_lt_of_lt_mul (Nat.mul_comm bound denominator ▸ below)
  have near := (roundHalfEven_within numerator denominator).2
  omega

theorem le_roundHalfEven {numerator denominator bound : Nat} (pos : 0 < denominator)
    (above : bound * denominator ≤ numerator) : bound ≤ roundHalfEven numerator denominator :=
  Nat.le_trans ((Nat.le_div_iff_mul_le pos).2 above) (roundHalfEven_within _ _).1

namespace Binary64

/-- A rank as a binary exponent and a significand. Above the exponent zero a significand has all
its 53 bits; one more than the largest is the least of the next exponent. -/
structure IsPlace (rank doublings significand : Nat) : Prop where
  rank_eq : rank = doublings * 2 ^ (52 : Nat) + significand
  full : doublings = 0 ∨ 2 ^ (52 : Nat) ≤ significand
  bounded : significand ≤ 2 ^ (53 : Nat)

section Spacing

theorem IsPlace.units_eq {rank doublings significand : Nat}
    (place : IsPlace rank doublings significand) :
    units rank = significand * 2 ^ doublings := by
  obtain ⟨rfl, full, bounded⟩ := place
  unfold units
  split
  next small =>
    obtain rfl : doublings = 0 := by omega
    simp
  next large =>
    by_cases carried : significand = 2 ^ (53 : Nat)
    · have exponent : (doublings * 2 ^ (52 : Nat) + significand) / 2 ^ (52 : Nat) - 1 =
          doublings + 1 := by omega
      have rest : doublings * 2 ^ (52 : Nat) + significand - (doublings + 1) * 2 ^ (52 : Nat) =
          2 ^ (52 : Nat) := by omega
      simp only [exponent, rest]
      rw [carried, Nat.pow_succ 2 doublings, Nat.pow_succ 2 52, ← Nat.mul_assoc,
        Nat.mul_right_comm]
    · have exponent : (doublings * 2 ^ (52 : Nat) + significand) / 2 ^ (52 : Nat) - 1 =
          doublings := by omega
      simp only [exponent, Nat.add_sub_cancel_left]

theorem exists_place (rank : Nat) :
    ∃ doublings significand, IsPlace rank doublings significand ∧
      significand < 2 ^ (53 : Nat) := by
  by_cases small : rank < 2 ^ (53 : Nat)
  · exact ⟨0, rank, ⟨by omega, .inl rfl, by omega⟩, small⟩
  · refine ⟨rank / 2 ^ (52 : Nat) - 1, rank - (rank / 2 ^ (52 : Nat) - 1) * 2 ^ (52 : Nat),
      ⟨?_, ?_, ?_⟩, ?_⟩ <;> omega

theorem IsPlace.succ {rank doublings significand : Nat}
    (place : IsPlace rank doublings significand) (below : significand < 2 ^ (53 : Nat)) :
    IsPlace (rank + 1) doublings (significand + 1) := by
  obtain ⟨rfl, full, bounded⟩ := place
  exact ⟨by omega, by omega, below⟩

theorem units_strictMono : StrictMono units := by
  apply strictMono_nat_of_lt_succ
  intro rank
  obtain ⟨doublings, significand, place, below⟩ := exists_place rank
  rw [place.units_eq, (place.succ below).units_eq]
  exact Nat.mul_lt_mul_of_pos_right (Nat.lt_succ_self _) (Nat.two_pow_pos _)

end Spacing

section Midpoints

/-- The next magnitude is at least one unit of the place away. -/
theorem IsPlace.le_units_succ {rank doublings significand : Nat}
    (place : IsPlace rank doublings significand) :
    (significand + 1) * 2 ^ doublings ≤ units (rank + 1) := by
  by_cases below : significand < 2 ^ (53 : Nat)
  · rw [(place.succ below).units_eq]
  · obtain ⟨rfl, -, bounded⟩ := place
    obtain rfl : significand = 2 ^ (53 : Nat) := by omega
    have next : IsPlace (doublings * 2 ^ (52 : Nat) + 2 ^ (53 : Nat) + 1) (doublings + 1)
        (2 ^ (52 : Nat) + 1) := ⟨by omega, .inr (Nat.le_succ _), by decide⟩
    have double : 2 ^ (doublings + 1) = 2 ^ doublings * 2 := Nat.pow_succ 2 doublings
    rw [next.units_eq, double]
    omega

/-- The magnitude before is one unit of the place away, unless the place is the least of its
exponent. -/
theorem IsPlace.units_pred_le {rank doublings significand : Nat}
    (place : IsPlace rank doublings significand) (some : rank ≠ 0) :
    units (rank - 1) + 2 ^ doublings ≤ significand * 2 ^ doublings ∨
      significand = 2 ^ (52 : Nat) ∧ doublings ≠ 0 := by
  by_cases least : significand = 2 ^ (52 : Nat) ∧ doublings ≠ 0
  · exact .inr least
  · obtain ⟨rfl, full, bounded⟩ := place
    have before : IsPlace (doublings * 2 ^ (52 : Nat) + significand - 1) doublings
        (significand - 1) := ⟨by omega, by omega, by omega⟩
    refine .inl ?_
    rw [before.units_eq, ← Nat.succ_mul]
    exact Nat.mul_le_mul_right _ (by omega)

variable {numerator denominator : Nat}

/-- The exponent that a quotient is rounded at leaves 53 bits before the point. -/
private theorem full_of_log2 (scaled denominator : Nat) :
    Nat.log2 (scaled / denominator) - 52 = 0 ∨ 2 ^ (52 : Nat) *
      (denominator * 2 ^ (Nat.log2 (scaled / denominator) - 52)) ≤ scaled := by
  by_cases small : Nat.log2 (scaled / denominator) ≤ 52
  · exact .inl (by omega)
  · refine .inr ?_
    have nonzero : scaled / denominator ≠ 0 := by
      intro none
      rw [none] at small
      exact small (by decide)
    have bits : 52 + (Nat.log2 (scaled / denominator) - 52) =
        Nat.log2 (scaled / denominator) := by omega
    calc 2 ^ (52 : Nat) * (denominator * 2 ^ (Nat.log2 (scaled / denominator) - 52))
        = 2 ^ Nat.log2 (scaled / denominator) * denominator := by
          rw [Nat.mul_comm denominator, ← Nat.mul_assoc, ← Nat.pow_add, bits]
      _ ≤ scaled / denominator * denominator :=
          Nat.mul_le_mul_right _ (Nat.log2_self_le nonzero)
      _ ≤ scaled := Nat.div_mul_le_self _ _

private theorem bounded_of_log2 (scaled : Nat) {denominator : Nat} (pos : 0 < denominator) :
    scaled < 2 ^ (53 : Nat) *
      (denominator * 2 ^ (Nat.log2 (scaled / denominator) - 52)) := by
  have bits : Nat.log2 (scaled / denominator) + 1 ≤
      53 + (Nat.log2 (scaled / denominator) - 52) := by omega
  have below : scaled / denominator < 2 ^ (53 + (Nat.log2 (scaled / denominator) - 52)) :=
    Nat.lt_of_lt_of_le Nat.lt_log2_self (Nat.pow_le_pow_right Nat.two_pos bits)
  have product := (Nat.div_lt_iff_lt_mul pos).1 below
  rwa [Nat.pow_add, Nat.mul_assoc, Nat.mul_comm _ denominator] at product

/-- The nearest magnitude, its place, and what its significand was rounded from. -/
theorem exists_place_nearestRank (pos : 0 < denominator) :
    ∃ doublings significand,
      IsPlace (nearestRank numerator denominator) doublings significand ∧
      significand =
        roundHalfEven (numerator * 2 ^ (1074 : Nat)) (denominator * 2 ^ doublings) ∧
      (doublings = 0 ∨
        2 ^ (52 : Nat) * (denominator * 2 ^ doublings) ≤ numerator * 2 ^ (1074 : Nat)) := by
  unfold nearestRank
  generalize numerator * 2 ^ (1074 : Nat) = scaled
  have full := full_of_log2 scaled denominator
  have bounded := bounded_of_log2 scaled pos
  dsimp only
  generalize Nat.log2 (scaled / denominator) - 52 = doublings at full bounded
  have unit := Nat.mul_pos pos (Nat.two_pow_pos doublings)
  exact ⟨_, _, ⟨rfl, full.imp_right (le_roundHalfEven unit), roundHalfEven_le bounded⟩, rfl, full⟩

/-- A quotient is at most as far up as the midpoint to the magnitude after the nearest one. It is
that far only if the nearest one is even. -/
theorem le_midpoint_nearestRank (pos : 0 < denominator) :
    2 * (numerator * 2 ^ (1074 : Nat)) ≤
      (units (nearestRank numerator denominator) + units (nearestRank numerator denominator + 1)) *
        denominator ∧
    (nearestRank numerator denominator % 2 = 1 → 2 * (numerator * 2 ^ (1074 : Nat)) <
      (units (nearestRank numerator denominator) + units (nearestRank numerator denominator + 1)) *
        denominator) := by
  obtain ⟨doublings, significand, place, rounded, -⟩ :=
    @exists_place_nearestRank numerator denominator pos
  have unit := Nat.mul_pos pos (Nat.two_pow_pos doublings)
  have step : (2 * significand + 1) * (denominator * 2 ^ doublings) ≤
      (units (nearestRank numerator denominator) + units (nearestRank numerator denominator + 1)) *
        denominator := by
    rw [Nat.mul_comm denominator, ← Nat.mul_assoc]
    apply Nat.mul_le_mul_right
    calc (2 * significand + 1) * 2 ^ doublings
        = significand * 2 ^ doublings + (significand + 1) * 2 ^ doublings := by
          rw [← Nat.add_mul]
          congr 1
          omega
      _ ≤ _ := Nat.add_le_add (Nat.le_of_eq place.units_eq.symm) place.le_units_succ
  refine ⟨Nat.le_trans ?_ step, fun odd => Nat.lt_of_lt_of_le ?_ step⟩
  · rw [rounded]
    exact (roundHalfEven_near _ unit).1
  · have odd : significand % 2 = 1 := by
      rw [place.rank_eq] at odd
      omega
    rw [rounded] at odd ⊢
    exact (roundHalfEven_near_of_odd unit odd).1

/-- A quotient is at least as far up as the midpoint to the magnitude before the nearest one. It
is no further only if the nearest one is even. -/
theorem midpoint_le_nearestRank (pos : 0 < denominator)
    (some : nearestRank numerator denominator ≠ 0) :
    (units (nearestRank numerator denominator - 1) + units (nearestRank numerator denominator)) *
        denominator ≤ 2 * (numerator * 2 ^ (1074 : Nat)) ∧
    (nearestRank numerator denominator % 2 = 1 →
      (units (nearestRank numerator denominator - 1) + units (nearestRank numerator denominator)) *
        denominator < 2 * (numerator * 2 ^ (1074 : Nat))) := by
  obtain ⟨doublings, significand, place, rounded, full⟩ :=
    @exists_place_nearestRank numerator denominator pos
  have unit := Nat.mul_pos pos (Nat.two_pow_pos doublings)
  have scaled : units (nearestRank numerator denominator) * denominator =
      significand * (denominator * 2 ^ doublings) := by
    rw [place.units_eq, Nat.mul_right_comm, Nat.mul_assoc]
  rw [Nat.add_mul, scaled]
  rcases place.units_pred_le some with apart | ⟨least, carried⟩
  · have step := Nat.mul_le_mul_right denominator apart
    rw [Nat.add_mul, ← place.units_eq, scaled, Nat.mul_comm (2 ^ doublings)] at step
    refine ⟨?_, fun odd => ?_⟩
    · have near := (roundHalfEven_near (numerator * 2 ^ (1074 : Nat)) unit).2
      rw [← rounded] at near
      omega
    · have odd : significand % 2 = 1 := by
        rw [place.rank_eq] at odd
        omega
      have near := (roundHalfEven_near_of_odd unit (rounded ▸ odd)).2
      rw [← rounded] at near
      omega
  · have before := Nat.mul_le_mul_right denominator
      (units_strictMono.monotone (Nat.sub_le (nearestRank numerator denominator) 1))
    have above := full.resolve_left carried
    rw [scaled] at before
    rw [least] at before ⊢
    refine ⟨by omega, fun odd => ?_⟩
    rw [place.rank_eq, least] at odd
    omega

private theorem nearestRank_le_of_even {rank : Nat} (pos : 0 < denominator)
    (even : rank % 2 = 0) (above : 2 * (numerator * 2 ^ (1074 : Nat)) ≤
      (units rank + units (rank + 1)) * denominator) :
    nearestRank numerator denominator ≤ rank := by
  apply Nat.le_of_not_lt
  intro beyond
  obtain ⟨below, strict⟩ := @midpoint_le_nearestRank numerator denominator pos (by omega)
  generalize nearestRank numerator denominator = nearest at beyond below strict
  generalize 2 * (numerator * 2 ^ (1074 : Nat)) = quotient at above below strict
  obtain rfl | far : nearest = rank + 1 ∨ rank + 1 < nearest := by omega
  · rw [Nat.add_sub_cancel] at strict
    exact Nat.lt_irrefl _ (Nat.lt_of_lt_of_le (strict (by omega)) above)
  · have front : rank < nearest - 1 := by omega
    have apart := Nat.add_lt_add (units_strictMono front) (units_strictMono far)
    have scaled := Nat.mul_lt_mul_of_pos_right apart pos
    exact Nat.lt_irrefl _ (Nat.lt_of_lt_of_le scaled (Nat.le_trans below above))

private theorem le_nearestRank_of_even {rank : Nat} (pos : 0 < denominator)
    (even : rank % 2 = 0) (below : (units (rank - 1) + units rank) * denominator ≤
      2 * (numerator * 2 ^ (1074 : Nat))) :
    rank ≤ nearestRank numerator denominator := by
  apply Nat.le_of_not_lt
  intro short
  obtain ⟨above, strict⟩ := @le_midpoint_nearestRank numerator denominator pos
  generalize nearestRank numerator denominator = nearest at short above strict
  generalize 2 * (numerator * 2 ^ (1074 : Nat)) = quotient at above below strict
  obtain rfl | far : rank = nearest + 1 ∨ nearest + 1 < rank := by omega
  · rw [Nat.add_sub_cancel] at below
    exact Nat.lt_irrefl _ (Nat.lt_of_lt_of_le (strict (by omega)) below)
  · have front : nearest < rank - 1 := by omega
    have apart := Nat.add_lt_add (units_strictMono front) (units_strictMono far)
    have scaled := Nat.mul_lt_mul_of_pos_right apart pos
    exact Nat.lt_irrefl _ (Nat.lt_of_lt_of_le scaled (Nat.le_trans below above))

/-- The quotients nearest to a magnitude of even rank are those between its two midpoints. -/
theorem nearestRank_eq_iff_of_even {rank : Nat} (pos : 0 < denominator) (even : rank % 2 = 0) :
    nearestRank numerator denominator = rank ↔
      (rank ≠ 0 → (units (rank - 1) + units rank) * denominator ≤
        2 * (numerator * 2 ^ (1074 : Nat))) ∧
      2 * (numerator * 2 ^ (1074 : Nat)) ≤ (units rank + units (rank + 1)) * denominator := by
  refine ⟨?_, fun between => ?_⟩
  · rintro rfl
    exact ⟨fun some => (midpoint_le_nearestRank pos some).1, (le_midpoint_nearestRank pos).1⟩
  · apply Nat.le_antisymm (nearestRank_le_of_even pos even between.2)
    by_cases least : rank = 0
    · exact least ▸ Nat.zero_le _
    · exact le_nearestRank_of_even pos even (between.1 least)

/-- A quotient is nearest to zero if it is at most half the least magnitude. -/
theorem nearestRank_eq_zero_iff (pos : 0 < denominator) :
    nearestRank numerator denominator = 0 ↔ 2 * (numerator * 2 ^ (1074 : Nat)) ≤ denominator := by
  have least : units 0 + units (0 + 1) = 1 := by decide
  rw [nearestRank_eq_iff_of_even pos rfl, least, Nat.one_mul]
  exact and_iff_right fun some => absurd rfl some

private theorem two_pow_of_add (bits high low : Nat) (sum : bits = high + low) :
    2 ^ bits = 2 ^ high * 2 ^ low := by
  rw [sum, Nat.pow_add]

/-- The rank of the number one. -/
def oneRank : Nat := 1023 * 2 ^ (52 : Nat)

/-- The midpoints to both sides of one, over any unit of which one has 2⁵³. -/
private theorem between_midpoints_of_one {unit : Nat} (pos : 0 < unit) :
    ((2 ^ (53 : Nat) - 1) * unit + 2 ^ (52 : Nat) * (2 * unit)) * denominator ≤
        2 * (numerator * (2 ^ (53 : Nat) * unit)) ∧
      2 * (numerator * (2 ^ (53 : Nat) * unit)) ≤
        (2 ^ (52 : Nat) * (2 * unit) + (2 ^ (52 : Nat) + 1) * (2 * unit)) * denominator ↔
    (2 ^ (54 : Nat) - 1) * denominator ≤ numerator * 2 ^ (54 : Nat) ∧
      numerator * 2 ^ (53 : Nat) ≤ (2 ^ (53 : Nat) + 1) * denominator := by
  have lower : ((2 ^ (53 : Nat) - 1) * unit + 2 ^ (52 : Nat) * (2 * unit)) * denominator =
      unit * ((2 ^ (54 : Nat) - 1) * denominator) := by
    rw [← Nat.mul_assoc unit]
    congr 1
    omega
  have upper : (2 ^ (52 : Nat) * (2 * unit) + (2 ^ (52 : Nat) + 1) * (2 * unit)) * denominator =
      unit * (2 * ((2 ^ (53 : Nat) + 1) * denominator)) := by
    rw [← Nat.mul_assoc 2, ← Nat.mul_assoc unit]
    congr 1
    omega
  have middle : 2 * (numerator * (2 ^ (53 : Nat) * unit)) =
      unit * (2 * (numerator * 2 ^ (53 : Nat))) := by
    rw [← Nat.mul_assoc numerator, ← Nat.mul_assoc 2, Nat.mul_comm]
  rw [lower, upper, middle, Nat.mul_le_mul_left_iff pos, Nat.mul_le_mul_left_iff pos,
    Nat.mul_le_mul_left_iff Nat.two_pos, Nat.pow_succ 2 53, ← Nat.mul_assoc numerator,
    Nat.mul_comm 2]

/-- A quotient is nearest to one if it is at most 2⁻⁵⁴ below and at most 2⁻⁵³ above. -/
theorem nearestRank_eq_oneRank_iff (pos : 0 < denominator) :
    nearestRank numerator denominator = oneRank ↔
      (2 ^ (54 : Nat) - 1) * denominator ≤ numerator * 2 ^ (54 : Nat) ∧
      numerator * 2 ^ (53 : Nat) ≤ (2 ^ (53 : Nat) + 1) * denominator := by
  have self : IsPlace oneRank 1022 (2 ^ (52 : Nat)) := ⟨by decide, by decide, by decide⟩
  have before : IsPlace (oneRank - 1) 1021 (2 ^ (53 : Nat) - 1) :=
    ⟨by decide, by decide, by decide⟩
  have unit : ∀ bits : Nat, 0 < 2 ^ bits := Nat.two_pow_pos
  rw [nearestRank_eq_iff_of_even pos (by decide), before.units_eq,
    (self.succ (by decide)).units_eq, self.units_eq, two_pow_of_add 1022 1 1021 rfl,
    Nat.pow_one, two_pow_of_add 1074 53 1021 rfl, imp_iff_right (by decide)]
  exact between_midpoints_of_one (unit 1021)

end Midpoints

end Binary64

end Atomistic.Number
