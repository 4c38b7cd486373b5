import Atomistic.Fault

/-! The element symbols and their atomic numbers. -/

namespace Atomistic

structure AtomicNumber where
  value : Nat
  positive : 0 < value
deriving DecidableEq, Repr

namespace Element

open Number

/-- The symbol of atomic number n + 1 stands at place n. -/
def symbols : List String := [
  "H", "He",
  "Li", "Be", "B", "C", "N", "O", "F", "Ne",
  "Na", "Mg", "Al", "Si", "P", "S", "Cl", "Ar",
  "K", "Ca", "Sc", "Ti", "V", "Cr", "Mn", "Fe", "Co", "Ni", "Cu", "Zn",
  "Ga", "Ge", "As", "Se", "Br", "Kr",
  "Rb", "Sr", "Y", "Zr", "Nb", "Mo", "Tc", "Ru", "Rh", "Pd", "Ag", "Cd",
  "In", "Sn", "Sb", "Te", "I", "Xe",
  "Cs", "Ba",
  "La", "Ce", "Pr", "Nd", "Pm", "Sm", "Eu", "Gd", "Tb", "Dy", "Ho", "Er", "Tm", "Yb", "Lu",
  "Hf", "Ta", "W", "Re", "Os", "Ir", "Pt", "Au", "Hg",
  "Tl", "Pb", "Bi", "Po", "At", "Rn",
  "Fr", "Ra",
  "Ac", "Th", "Pa", "U", "Np", "Pu", "Am", "Cm", "Bk", "Cf", "Es", "Fm", "Md", "No", "Lr",
  "Rf", "Db", "Sg", "Bh", "Hs", "Mt", "Ds", "Rg", "Cn",
  "Nh", "Fl", "Mc", "Lv", "Ts", "Og"]

def numberOf? (symbol : String) : Option AtomicNumber :=
  (symbols.findIdx? (· == symbol)).map fun place => ⟨place + 1, by omega⟩

def symbolOf? (number : Nat) : Option String :=
  if number = 0 then none else symbols[number - 1]?

def isKnown : RawValue → Bool
  | .text symbol => (numberOf? symbol).isSome
  | _ => false

def resolveSymbol (given : RawValue) : Except FormatFault AtomicNumber :=
  let found := match given with
    | .text symbol => numberOf? symbol
    | _ => none
  found.elim (.error ⟨.notInTable given, none⟩) .ok

/-- The whole number that a value stands for as an atomic number. A truth value is none. -/
def wholeNumber? : RawValue → Option Nat
  | .integer value => if 0 ≤ value then some value.toNat else none
  | .real value =>
    (List.range (symbols.length + 1)).find? fun number =>
      value.equals (Binary64.ofRatio false number 1)
  | _ => none

/-- Look up an atomic number given as any value. -/
def resolveNumber (given : RawValue) : Except FormatFault String :=
  ((wholeNumber? given).bind symbolOf?).elim (.error ⟨.notInTable given, none⟩) .ok

def table : List (String × Nat) :=
  symbols.zipIdx 1

end Element

namespace AtomicNumber

def symbol (number : AtomicNumber) : Except FormatFault String :=
  (Element.symbolOf? number.value).elim
    (.error ⟨.notInTable (.integer number.value), none⟩) .ok

end AtomicNumber

end Atomistic
