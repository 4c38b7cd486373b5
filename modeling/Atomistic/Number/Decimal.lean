import Atomistic.Number.Binary64

/-! Decimal digits of binary64 numbers. The shortest digits are the fewest that read back
as the same number and, of those, the nearest to it. -/

namespace Atomistic.Number

/-- Significant digits and the position of the point: 0.d₁d₂… · 10^point. -/
structure Digits where
  digits : List Char
  point : Int
deriving DecidableEq, Repr

def dropTrailingZeros (digits : List Char) : List Char :=
  (digits.reverse.dropWhile (· == '0')).reverse

/-- The digits of coefficient · 10^exponent, without zeros at the end. -/
def Digits.ofDecimal (coefficient : Nat) (exponent : Int) : Digits :=
  let digits := Nat.toDigits 10 coefficient
  if coefficient = 0 then ⟨['0'], 1⟩
  else ⟨dropTrailingZeros digits, digits.length + exponent⟩

namespace Binary64

/-- A magnitude as a quotient whose unit is 10^exponent. -/
def onGrid (rank : Nat) (exponent : Int) : Nat × Nat :=
  if 0 ≤ exponent then (units rank, 2 ^ (1074 : Nat) * 10 ^ exponent.toNat)
  else (units rank * 10 ^ (-exponent).toNat, 2 ^ (1074 : Nat))

def isBelowPower (rank : Nat) (exponent : Int) : Bool :=
  (onGrid rank exponent).1 < (onGrid rank exponent).2

/-- The position of the point of a positive magnitude: the least power of ten above it. The
binary exponent times 1233/4096, which is close to log₁₀ 2, is at most two below it. -/
def pointOf (rank : Nat) : Int :=
  let guess := ((Nat.log2 (units rank) : Int) - 1074) * 1233 / 4096
  if isBelowPower rank guess then guess
  else if isBelowPower rank (guess + 1) then guess + 1
  else guess + 2

/-- The multiple of 10^exponent nearest to a magnitude. -/
def roundOnGrid (rank : Nat) (exponent : Int) : Nat :=
  roundHalfEven (onGrid rank exponent).1 (onGrid rank exponent).2

def readsBack (rank : Nat) (coefficient : Nat) (exponent : Int) : Bool :=
  match ofDecimal false coefficient exponent with
  | finite _ found => found.val == rank
  | _ => false

/-- The multiple of 10^exponent on the other side of a magnitude. -/
def otherOnGrid (rank : Nat) (exponent : Int) : Nat :=
  let near := roundOnGrid rank exponent
  if near * (onGrid rank exponent).2 ≤ (onGrid rank exponent).1 then near + 1 else near - 1

/-- The neighbour on a grid that reads back, the nearer one first. -/
def hit? (rank : Nat) (exponent : Int) : Option (Nat × Int) :=
  if readsBack rank (roundOnGrid rank exponent) exponent then
    some (roundOnGrid rank exponent, exponent)
  else if readsBack rank (otherOnGrid rank exponent) exponent then
    some (otherOnGrid rank exponent, exponent)
  else none

/-- Every magnitude is a decimal, since 2⁻¹⁰⁷⁴ is. -/
def exactDecimal (rank : Nat) : Nat × Int :=
  (units rank * 5 ^ (1074 : Nat), -1074)

/-- The first hit on the grids from one digit up. Seventeen digits are always enough. -/
def shortestHit? (rank : Nat) : Option (Nat × Int) :=
  let point := pointOf rank
  (List.range' 1 17).findSome? fun (count : Nat) => hit? rank (point - count)

def shortestDecimal (rank : Nat) : Nat × Int :=
  if rank = 0 then (0, 0) else (shortestHit? rank).getD (exactDecimal rank)

def shortestDigits (rank : Nat) : Digits :=
  Digits.ofDecimal (shortestDecimal rank).1 (shortestDecimal rank).2

def significantDigits (count : Nat) (rank : Nat) : Digits :=
  if rank = 0 then Digits.ofDecimal 0 0
  else
    let exponent := pointOf rank - count
    Digits.ofDecimal (roundOnGrid rank exponent) exponent

end Binary64

end Atomistic.Number
