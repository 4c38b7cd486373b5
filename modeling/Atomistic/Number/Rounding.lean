/-! Division of natural numbers rounded to the nearest, with a half going to the even
neighbour. -/

namespace Atomistic.Number

def roundHalfEven (numerator denominator : Nat) : Nat :=
  let quotient := numerator / denominator
  let remainder := numerator % denominator
  if 2 * remainder < denominator then quotient
  else if denominator < 2 * remainder then quotient + 1
  else quotient + quotient % 2

theorem roundHalfEven_mul_self (quotient : Nat) {denominator : Nat} (pos : 0 < denominator) :
    roundHalfEven (quotient * denominator) denominator = quotient := by
  simp [roundHalfEven, Nat.mul_div_cancel _ pos, pos]

/-- The rounded quotient is at most half a unit away. -/
theorem roundHalfEven_near (numerator : Nat) {denominator : Nat} (pos : 0 < denominator) :
    2 * numerator ≤ (2 * roundHalfEven numerator denominator + 1) * denominator ∧
      2 * (roundHalfEven numerator denominator * denominator) ≤ 2 * numerator + denominator := by
  have parts := Nat.div_add_mod' numerator denominator
  have small := Nat.mod_lt numerator pos
  simp only [roundHalfEven]
  generalize numerator / denominator = quotient at parts ⊢
  generalize numerator % denominator = remainder at parts small ⊢
  split
  next below => rw [Nat.add_mul, Nat.mul_assoc]; omega
  next =>
    split
    next above => rw [Nat.add_mul, Nat.mul_assoc, Nat.add_mul]; omega
    next =>
      have parity := Nat.mod_two_eq_zero_or_one quotient
      rw [Nat.add_mul, Nat.mul_assoc, Nat.add_mul]
      rcases parity with even | odd
      · rw [even]; omega
      · rw [odd]; omega

end Atomistic.Number
