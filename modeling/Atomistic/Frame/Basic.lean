import Atomistic.Species

/-! Frames. A frame is one snapshot of a simulation: two header lines before the box, its
lengths and angles, two header lines after it, and the atoms. What every frame keeps is
part of its type: headers are single lines, lengths are not negative, and the atoms of a
species agree on their mass. -/

namespace Atomistic

open Number

def isOneLine (text : String) : Bool :=
  text.toList.all fun c => c != '\n' && c != '\r'

structure HeaderLine where
  text : String
  oneLine : isOneLine text = true
deriving DecidableEq, Repr

structure Heading where
  upper : HeaderLine
  lower : HeaderLine
deriving DecidableEq, Repr

def HeaderLine.ofText (place : String) (index : Nat) (text : String) :
    Except ValueFault HeaderLine :=
  if oneLine : isOneLine text then .ok ⟨text, oneLine⟩ else .error (.brokenLine place index)

def Heading.ofTexts (place upper lower : String) : Except ValueFault Heading :=
  return ⟨← HeaderLine.ofText place 0 upper, ← HeaderLine.ofText place 1 lower⟩

structure BoxLengths where
  lengths : Triple
  notNegative : lengths.anyNegative = false
deriving DecidableEq, Repr

def BoxLengths.ofTriple (lengths : Triple) : Except ValueFault BoxLengths :=
  if notNegative : lengths.anyNegative = false then .ok ⟨lengths, notNegative⟩
  else .error (.negativeLengths lengths.toList)

/-- What each atom states about its species. -/
def declarations (atoms : List Atom) : List (AtomicNumber × Binary64) :=
  atoms.map fun atom => (atom.number, atom.mass)

/-- The first statement that differs from the first one for its species. The first is held
to itself as well, so a species cannot have nan for its mass. -/
def massConflict? (stated : List (AtomicNumber × Binary64)) : Option MassConflict :=
  stated.zipIdx.findSome? fun ((number, mass), index) =>
    (stated.lookup number).bind fun declared =>
      if declared.equals mass then none else some ⟨index, number, mass, declared⟩

structure Frame where
  preBox : Heading
  cell : BoxLengths
  angles : Triple
  postBox : Heading
  atoms : List Atom
  massesAgree : massConflict? (declarations atoms) = none
deriving DecidableEq, Repr

namespace Frame

/-- The atoms of a frame must agree on the mass of each species. -/
def ofAtoms (preBox : Heading) (cell : BoxLengths) (angles : Triple) (postBox : Heading)
    (atoms : List Atom) : Except ValueFault Frame :=
  match agree : massConflict? (declarations atoms) with
  | none => .ok ⟨preBox, cell, angles, postBox, atoms, agree⟩
  | some conflict => .error
      (.massDiffers conflict.index conflict.mass conflict.declared conflict.number.value)

/-- Headers are checked first, then the lengths, and the atoms last. -/
def ofParts (preBox : String × String) (cell angles : Triple) (postBox : String × String)
    (atoms : List Atom) : Except ValueFault Frame := do
  let preBox ← Heading.ofTexts "Frame.prebox_header" preBox.1 preBox.2
  let postBox ← Heading.ofTexts "Frame.postbox_header" postBox.1 postBox.2
  let cell ← BoxLengths.ofTriple cell
  Frame.ofAtoms preBox cell angles postBox atoms

def blocks (frame : Frame) : List SpeciesBlock :=
  gather frame.atoms

def atomsPerSpecies (frame : Frame) : List Nat :=
  frame.blocks.map SpeciesBlock.count

def massPerSpecies (frame : Frame) : List Binary64 :=
  frame.blocks.map SpeciesBlock.mass

def withIds (index : Nat) : List Atom → List Atom
  | [] => []
  | atom :: rest =>
    { atom with site := { atom.site with id := index } } :: withIds (index + 1) rest

theorem declarations_withIds (index : Nat) (atoms : List Atom) :
    declarations (withIds index atoms) = declarations atoms := by
  induction atoms generalizing index with
  | nil => rfl
  | cons atom rest ih => simpa [withIds, declarations] using ih (index + 1)

/-- The same frame with atom ids that count up from zero. -/
def renumbered (frame : Frame) : Frame :=
  { frame with
    atoms := withIds 0 frame.atoms
    massesAgree := by rw [declarations_withIds]; exact frame.massesAgree }

/-- The same frame with its atoms in the order of the species blocks. -/
def regrouped (frame : Frame) : Except ValueFault Frame :=
  Frame.ofAtoms frame.preBox frame.cell frame.angles frame.postBox (flatten frame.blocks)

/-- Reals are compared as numbers, so a frame with nan is not equal to itself. -/
def equals (one other : Frame) : Bool :=
  one.preBox == other.preBox && one.cell.lengths.equals other.cell.lengths &&
    one.angles.equals other.angles && one.postBox == other.postBox &&
    one.atoms.length == other.atoms.length &&
    (one.atoms.zip other.atoms).all fun (atom, counterpart) => atom.equals counterpart

end Frame

end Atomistic
