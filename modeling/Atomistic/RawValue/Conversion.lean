import Atomistic.Fault

/-! Numbers and parts out of values of any kind. -/

namespace Atomistic.RawValue

open Number

/-- A text is read as a numeral; a truth value counts as zero or one. -/
def toReal : RawValue → Except ValueFault Binary64
  | real value => .ok value
  | truth value => .ok (if value then .one else .zero)
  | integer value => (Binary64.ofInt? value).elim (.error .beyondReals) .ok
  | text value => (realOfText? value.toList).elim (.error (.notNumeral value)) .ok
  | other => .error (.notReal other.kind)

/-- A truth value is no integer. -/
def toInteger (place : String) : RawValue → Except ValueFault Int
  | integer value => .ok value
  | other => .error (.notInteger place other.kind)

def toNatural (place : String) (given : RawValue) : Except ValueFault Nat := do
  let value ← given.toInteger place
  if value < 0 then .error (.negative place value) else .ok value.toNat

def parts (given : RawValue) : Except ValueFault (List RawValue) :=
  given.parts?.elim (.error (.noParts given.kind)) .ok

end Atomistic.RawValue
