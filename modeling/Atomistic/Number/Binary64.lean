import Atomistic.Number.Rounding

/-! Binary64 numbers as exact values. A finite magnitude is kept as its rank: its place
among all finite magnitudes in increasing order. Magnitudes are whole multiples of
2⁻¹⁰⁷⁴, so rounding to the nearest needs natural numbers only. -/

namespace Atomistic.Number

/-- Powers of natural numbers are the core ones, also where other instances are in scope. -/
instance (priority := 2000) naturalPower : Pow Nat Nat := instPowNat

/-- The rank that would follow the largest finite magnitude. -/
def infinityRank : Nat := 2047 * 2 ^ (52 : Nat)

inductive Binary64 where
  | finite (negative : Bool) (rank : Fin infinityRank)
  | infinite (negative : Bool)
  | nan
deriving DecidableEq, Repr

namespace Binary64

/-- The multiple of 2⁻¹⁰⁷⁴ that a magnitude is. Above the first 2⁵³ ranks the spacing
doubles with every further 2⁵². -/
def units (rank : Nat) : Nat :=
  if rank < 2 ^ (53 : Nat) then rank
  else
    let doublings := rank / 2 ^ (52 : Nat) - 1
    (rank - doublings * 2 ^ (52 : Nat)) * 2 ^ doublings

/-- The rank of the magnitude nearest to a quotient, with a half going to the even rank. -/
def nearestRank (numerator denominator : Nat) : Nat :=
  let scaled := numerator * 2 ^ (1074 : Nat)
  let doublings := Nat.log2 (scaled / denominator) - 52
  doublings * 2 ^ (52 : Nat) + roundHalfEven scaled (denominator * 2 ^ doublings)

def ofRank (negative : Bool) (rank : Nat) : Binary64 :=
  if inside : rank < infinityRank then finite negative ⟨rank, inside⟩ else infinite negative

def ofRatio (negative : Bool) (numerator denominator : Nat) : Binary64 :=
  ofRank negative (nearestRank numerator denominator)

def zero : Binary64 := ofRank false 0

def one : Binary64 := ofRatio false 1 1

/-- The number nearest to coefficient · 10^exponent. Far outside the range of finite
magnitudes the power of ten is not computed. -/
def ofDecimal (negative : Bool) (coefficient : Nat) (exponent : Int) : Binary64 :=
  if coefficient = 0 then ofRank negative 0
  else if 0 ≤ exponent then
    if 400 < exponent then infinite negative
    else ofRatio negative (coefficient * 10 ^ exponent.toNat) 1
  else
    let places := (-exponent).toNat
    if Nat.log2 coefficient + 1101 ≤ 3 * places then ofRank negative 0
    else ofRatio negative coefficient (10 ^ places)

/-- The number nearest to an integer, if that is finite. -/
def ofInt? (value : Int) : Option Binary64 :=
  match ofRatio (value < 0) value.natAbs 1 with
  | finite negative rank => some (finite negative rank)
  | _ => none

/-- Whether two numbers are equal as numbers: the zeros are, and nan equals nothing. -/
def equals : Binary64 → Binary64 → Bool
  | finite negative rank, finite negative' rank' =>
    rank = rank' && (negative == negative' || rank.val == 0)
  | infinite negative, infinite negative' => negative == negative'
  | _, _ => false

def isNegative : Binary64 → Bool
  | finite negative rank => negative && rank.val != 0
  | infinite negative => negative
  | nan => false

def isZero : Binary64 → Bool
  | finite _ rank => rank.val == 0
  | _ => false

/-- The least natural number that is not below a number. For nan that is zero, and nothing
reaches infinity. -/
def ceiling? : Binary64 → Option Nat
  | finite negative rank =>
    some (if negative then 0 else (units rank + (2 ^ (1074 : Nat) - 1)) / 2 ^ (1074 : Nat))
  | infinite negative => if negative then some 0 else none
  | nan => some 0

theorem equals_self_iff (x : Binary64) : x.equals x = true ↔ x ≠ nan := by
  cases x <;> simp [equals]

theorem equals_comm (x y : Binary64) : x.equals y = y.equals x := by
  cases x <;> cases y <;> simp only [equals]
  case finite.finite negative rank negative' rank' =>
    by_cases same : rank = rank'
    · subst same
      simp [Bool.beq_comm]
    · have other : ¬ rank' = rank := fun equal => same equal.symm
      simp [same, other]
  case infinite.infinite => exact Bool.beq_comm

end Binary64

end Atomistic.Number
