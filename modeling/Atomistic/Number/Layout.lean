import Atomistic.Number.Decimal

/-! How numbers are written. A layout decides where positional form ends and whether a
whole number keeps a point. -/

namespace Atomistic.Number

structure Layout where
  /-- Positional form is used when the point lies above this position … -/
  above : Int
  /-- … and not beyond this one. -/
  upTo : Int
  /-- Whether a whole number in positional form ends in a point and a zero. -/
  keepsPoint : Bool

/-- Numbers of a frame: positional from 0.0001 to below 10¹⁶, always with a point. -/
def Layout.exact : Layout := ⟨-4, 16, true⟩

/-- Masses of a report: six significant digits, positional from 0.0001 to below 10⁶. -/
def Layout.brief : Layout := ⟨-4, 6, false⟩

def briefDigits : Nat := 6

def zeros (count : Int) : List Char :=
  List.replicate count.toNat '0'

def Layout.positional (layout : Layout) (number : Digits) : List Char :=
  if number.point ≤ 0 then '0' :: '.' :: zeros (-number.point) ++ number.digits
  else if number.digits.length ≤ number.point then
    number.digits ++ zeros (number.point - number.digits.length) ++
      (if layout.keepsPoint then ['.', '0'] else [])
  else number.digits.take number.point.toNat ++ '.' :: number.digits.drop number.point.toNat

/-- An exponent has a sign and at least two digits. -/
def writeExponent (exponent : Int) : List Char :=
  let digits := Nat.toDigits 10 exponent.natAbs
  'e' :: (if exponent < 0 then '-' else '+') :: zeros (2 - digits.length) ++ digits

def scientific (number : Digits) : List Char :=
  let fraction := number.digits.drop 1
  number.digits.take 1 ++ (if fraction.isEmpty then [] else '.' :: fraction) ++
    writeExponent (number.point - 1)

def Layout.write (layout : Layout) (number : Digits) : List Char :=
  if layout.above < number.point && number.point ≤ layout.upTo then layout.positional number
  else scientific number

def signText (negative : Bool) : List Char :=
  if negative then ['-'] else []

/-- Digits with a point before the last so many of them. -/
def writeFixed (places : Nat) (multiple : Nat) : List Char :=
  let digits := Nat.toDigits 10 multiple
  let padded := zeros (places + 1 - digits.length) ++ digits
  padded.take (padded.length - places) ++ '.' :: padded.drop (padded.length - places)

namespace Binary64

def writeWith (magnitude : Nat → List Char) : Binary64 → List Char
  | finite negative rank => signText negative ++ magnitude rank.val
  | infinite negative => signText negative ++ "inf".toList
  | nan => "nan".toList

/-- The shortest text that reads back as the same number. -/
def write (x : Binary64) : List Char :=
  x.writeWith fun rank => Layout.exact.write (shortestDigits rank)

def writeBrief (x : Binary64) : List Char :=
  x.writeWith fun rank => Layout.brief.write (significantDigits briefDigits rank)

def writeSixPlaces (x : Binary64) : List Char :=
  x.writeWith fun rank => writeFixed 6 (roundOnGrid rank (-6))

end Binary64

def writeInt (value : Int) : List Char :=
  signText (value < 0) ++ Nat.toDigits 10 value.natAbs

end Atomistic.Number
