import Atomistic.Element
import Atomistic.RawValue.Conversion

/-! Atoms. A site is what an atom has of its own; number and mass belong to its species. -/

namespace Atomistic

open Number

def AtomicNumber.ofRaw (place : String) (given : RawValue) :
    Except ValueFault AtomicNumber := do
  let value ← given.toInteger place
  if positive : 0 < value then .ok ⟨value.toNat, by omega⟩
  else .error (.notPositive place value)

structure Triple where
  x : Binary64
  y : Binary64
  z : Binary64
deriving DecidableEq, Repr

namespace Triple

def toList (triple : Triple) : List Binary64 :=
  [triple.x, triple.y, triple.z]

def anyNegative (triple : Triple) : Bool :=
  triple.toList.any Binary64.isNegative

def equals (one other : Triple) : Bool :=
  one.x.equals other.x && one.y.equals other.y && one.z.equals other.z

end Triple

structure Site where
  position : Triple
  id : Nat
  isFixed : Bool
deriving DecidableEq, Repr

structure Atom where
  number : AtomicNumber
  mass : Binary64
  site : Site
deriving DecidableEq, Repr

namespace Atom

def position (atom : Atom) : Triple := atom.site.position

def id (atom : Atom) : Nat := atom.site.id

def isFixed (atom : Atom) : Bool := atom.site.isFixed

/-- Reals are compared as numbers, so an atom with nan is not equal to itself. -/
def equals (one other : Atom) : Bool :=
  one.number == other.number && one.position.equals other.position && one.id == other.id &&
    one.mass.equals other.mass && one.isFixed == other.isFixed

end Atom

structure SiteDraft where
  x : RawValue
  y : RawValue
  z : RawValue
  id : RawValue
  isFixed : RawValue

def Triple.ofDraft (x y z : RawValue) : Except ValueFault Triple :=
  return ⟨← x.toReal, ← y.toReal, ← z.toReal⟩

def SiteDraft.check (draft : SiteDraft) : Except ValueFault Site := do
  let id ← draft.id.toNatural "AtomSite.atom_id"
  let position ← Triple.ofDraft draft.x draft.y draft.z
  return ⟨position, id, draft.isFixed.isTrue⟩

structure AtomDraft where
  number : RawValue
  mass : RawValue
  site : SiteDraft

def AtomDraft.check (draft : AtomDraft) : Except ValueFault Atom := do
  let number ← AtomicNumber.ofRaw "Atom.atomic_number" draft.number
  let id ← draft.site.id.toNatural "Atom.atom_id"
  let position ← Triple.ofDraft draft.site.x draft.site.y draft.site.z
  let mass ← draft.mass.toReal
  return ⟨number, mass, position, id, draft.site.isFixed.isTrue⟩

end Atomistic
