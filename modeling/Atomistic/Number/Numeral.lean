import Atomistic.Number.Binary64
import Atomistic.Text.Blank
import Atomistic.Text.DecimalDigit

/-! Numerals as they stand in text. A real numeral is a decimal with an optional point and
exponent, or a word for infinity or nan; an integer numeral is a sign and digits. The
digits of every script count. -/

namespace Atomistic.Number

open Atomistic.Text

/-- What a token says when it has the shape of a real numeral. -/
inductive RealNumeral where
  | decimal (negative : Bool) (coefficient : Nat) (exponent : Int)
  | infinity (negative : Bool)
  | nan
  /-- An infinity word spelled with a dotless or a dotted capital i. It has the shape of a
  numeral, and no value. -/
  | dottedInfinity
deriving DecidableEq, Repr

def RealNumeral.value? : RealNumeral → Option Binary64
  | .decimal negative coefficient exponent =>
    some (Binary64.ofDecimal negative coefficient exponent)
  | .infinity negative => some (.infinite negative)
  | .nan => some .nan
  | .dottedInfinity => none

def ofDigits (digits : List Nat) : Nat :=
  digits.foldl (fun total digit => 10 * total + digit) 0

/-- Split off the longest run of decimal digits. -/
def takeDigits : List Char → List Nat × List Char
  | [] => ([], [])
  | c :: rest =>
    match digitValue? c with
    | some value =>
      let found := takeDigits rest
      (value :: found.1, found.2)
    | none => ([], c :: rest)

/-- Split off a sign; the first part tells whether it is a minus. -/
def takeSign : List Char → Bool × List Char
  | '-' :: rest => (true, rest)
  | '+' :: rest => (false, rest)
  | text => (false, text)

/-- What follows the digits of a decimal: nothing, or an exponent up to the end. -/
def readExponent? : List Char → Option Int
  | [] => some 0
  | c :: rest =>
    if c = 'e' || c = 'E' then
      match takeDigits (takeSign rest).2 with
      | (digit :: digits, []) =>
        let magnitude : Int := ofDigits (digit :: digits)
        some (if (takeSign rest).1 then -magnitude else magnitude)
      | _ => none
    else none

def takeFraction : List Char → List Nat × List Char
  | '.' :: rest => takeDigits rest
  | text => ([], text)

/-- A decimal without its sign: coefficient and power of ten. -/
def readDecimal? (text : List Char) : Option (Nat × Int) :=
  let (whole, afterWhole) := takeDigits text
  let (fraction, afterFraction) := takeFraction afterWhole
  if whole.isEmpty && fraction.isEmpty then none
  else (readExponent? afterFraction).map fun exponent =>
    (ofDigits (whole ++ fraction), exponent - fraction.length)

/-- The letter i without regard to its dot, and every other letter in lower case. -/
def plainLetter (c : Char) : Char :=
  if c.toNat = 0x130 || c.toNat = 0x131 then 'i' else c.toLower

def isInfinityWord (word : List Char) : Bool :=
  word == "inf".toList || word == "infinity".toList

def readReal? (token : List Char) : Option RealNumeral :=
  let (negative, body) := takeSign token
  if isInfinityWord (lowercase body) then some (.infinity negative)
  else if lowercase body == "nan".toList then some .nan
  else if isInfinityWord (body.map plainLetter) then some .dottedInfinity
  else (readDecimal? body).map fun (coefficient, exponent) =>
    .decimal negative coefficient exponent

structure IntegerNumeral where
  negative : Bool
  digits : List Nat
deriving DecidableEq, Repr

def readInteger? (token : List Char) : Option IntegerNumeral :=
  match takeDigits (takeSign token).2 with
  | (digit :: digits, []) => some ⟨(takeSign token).1, digit :: digits⟩
  | _ => none

/-- The most digits of an integer that are converted to or from text. -/
def digitLimit : Nat := 4300

def IntegerNumeral.value (numeral : IntegerNumeral) : Int :=
  if numeral.negative then -(ofDigits numeral.digits : Int) else ofDigits numeral.digits

/-- Underscores may stand between two digits and nowhere else. -/
def dropUnderscores? (afterDigit : Bool) : List Char → Option (List Char)
  | [] => some []
  | c :: rest =>
    if c = '_' then
      match rest with
      | next :: _ =>
        if afterDigit && (digitValue? next).isSome then dropUnderscores? false rest else none
      | [] => none
    else (dropUnderscores? (digitValue? c).isSome rest).map (c :: ·)

/-- The blanks that may surround a numeral in free text: not the four separators of ASCII. -/
def isNumeralBlank (c : Char) : Bool :=
  isBlank c && !(0x1c ≤ c.toNat && c.toNat ≤ 0x1f)

/-- The number that a free text stands for, with blanks around and underscores inside. -/
def realOfText? (text : List Char) : Option Binary64 := do
  let plain ← dropUnderscores? false text
  let numeral ← readReal? (trim isNumeralBlank plain)
  numeral.value?

/-- Drop a plus sign, which no minus may follow. -/
def dropPlus? : List Char → Option (List Char)
  | '+' :: '-' :: _ => none
  | '+' :: rest => some rest
  | text => some text

/-- Drop a fraction of zeros, if there is a fraction. -/
def dropZeroFraction? (text : List Char) : Option (List Char) :=
  match text.dropWhile (· != '.') with
  | [] => some text
  | _ :: fraction =>
    if fraction.isEmpty || fraction.any (· != '0') then none
    else some (text.takeWhile (· != '.'))

/-- Drop the zeros in front of a number, and underscores among them. If nothing else is there,
the last of them stays. -/
def dropLeadingZeros : List Char → List Char
  | '0' :: rest =>
    match rest.dropWhile fun c => c == '0' || c == '_' with
    | [] => [rest.getLast?.getD '0']
    | number => number
  | text => text

/-- Remove the underscores. None may stand at an end or beside another one. -/
def removeUnderscores? (text : List Char) : Option (List Char) :=
  let parts := text.splitOnP (· == '_')
  if parts.any List.isEmpty then none else some parts.flatten

/-- Digits of ASCII, with no zero in front of others. -/
def isPlainNumber (digits : List Char) : Bool :=
  digits.all Char.isDigit && (digits = ['0'] || digits.head?.any (· != '0'))

/-- Split off a minus; the first part tells whether there was one. -/
def takeMinus : List Char → Bool × List Char
  | '-' :: rest => (true, rest)
  | text => (false, text)

/-- The integer that a free text stands for, with blanks around, zeros in front, underscores
inside and a fraction of zeros after it. One minus may stand before the zeros in front or
after them. These zeros do not count towards the limit. -/
def integerOfText? (text : List Char) : Option Int := do
  let number ← dropPlus? (trim isNumeralBlank text)
  let (minusBefore, unsigned) := takeMinus (← dropZeroFraction? number)
  let plain ← removeUnderscores? (dropLeadingZeros unsigned)
  let (minus, digits) := if minusBefore then (true, plain) else takeMinus plain
  if isPlainNumber digits && digits.length ≤ digitLimit then
    some (IntegerNumeral.value ⟨minus, (takeDigits digits).1⟩)
  else none

end Atomistic.Number
