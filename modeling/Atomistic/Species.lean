import Atomistic.Atom

/-! Atoms gathered by species. Blocks stand in the order in which their species first
occur, and each block keeps its atoms in order. -/

namespace Atomistic

open Number

/-- The atoms of one species, with the number and mass that they share. -/
structure SpeciesBlock where
  number : AtomicNumber
  mass : Binary64
  sites : List Site
deriving DecidableEq, Repr

namespace SpeciesBlock

def count (block : SpeciesBlock) : Nat := block.sites.length

def atoms (block : SpeciesBlock) : List Atom :=
  block.sites.map fun site => ⟨block.number, block.mass, site⟩

end SpeciesBlock

def flatten (blocks : List SpeciesBlock) : List Atom :=
  blocks.flatMap SpeciesBlock.atoms

/-- Each block takes the mass of its first atom. -/
def gather : List Atom → List SpeciesBlock
  | [] => []
  | atom :: rest =>
    let same := rest.filter (·.number == atom.number)
    ⟨atom.number, atom.mass, atom.site :: same.map Atom.site⟩ ::
      gather (rest.filter (·.number != atom.number))
termination_by atoms => atoms.length
decreasing_by
  simpa using Nat.lt_succ_of_le (List.length_filter_le _ rest)

/-- An atom whose mass is not equal to the one declared by the first of its species. -/
structure MassConflict where
  index : Nat
  number : AtomicNumber
  mass : Binary64
  declared : Binary64
deriving DecidableEq, Repr

/-- The first atom that conflicts with the masses declared so far. -/
def laterMassConflict? (index : Nat) (declared : List (AtomicNumber × Binary64)) :
    List Atom → Option MassConflict
  | [] => none
  | atom :: rest =>
    match declared.lookup atom.number with
    | none => laterMassConflict? (index + 1) ((atom.number, atom.mass) :: declared) rest
    | some mass =>
      if mass.equals atom.mass then laterMassConflict? (index + 1) declared rest
      else some ⟨index, atom.number, atom.mass, mass⟩

/-- The first atom that differs from an earlier one of its species in mass. -/
def groupConflict? (atoms : List Atom) : Option MassConflict :=
  laterMassConflict? 0 [] atoms

def group (atoms : List Atom) : Except ValueFault (List SpeciesBlock) :=
  match groupConflict? atoms with
  | some conflict => .error
      (.groupMassDiffers conflict.index conflict.mass conflict.declared conflict.number.value)
  | none => .ok (gather atoms)

def speciesCounts (atoms : List Atom) : Except ValueFault (List Nat) :=
  (group atoms).map (·.map SpeciesBlock.count)

/-- Walk along the atoms with the species seen so far and the species of the atom before. -/
def runsAreUnique (seen : List AtomicNumber) (previous : Option AtomicNumber) :
    List Atom → Bool
  | [] => true
  | atom :: rest =>
    if previous = some atom.number then runsAreUnique seen previous rest
    else !seen.contains atom.number &&
      runsAreUnique (atom.number :: seen) (some atom.number) rest

/-- Whether the atoms of every species stand in a single run. -/
def isSpeciesContiguous (atoms : List Atom) : Bool :=
  runsAreUnique [] none atoms

/-- Refuse an item that is no atom. -/
def refuseNonAtom : Option RawValue → Except ValueFault Unit
  | none => .ok ()
  | some value => .error (.noAtomicNumber value.kind)

/-- Group items that should be atoms. Atoms in front of an item that is none count first. -/
def groupItems (items : List (Supplied Atom)) : Except ValueFault (List SpeciesBlock) := do
  let (atoms, other?) := Supplied.leading items
  let blocks ← group atoms
  refuseNonAtom other?
  return blocks

def countItems (items : List (Supplied Atom)) : Except ValueFault (List Nat) :=
  (groupItems items).map (·.map SpeciesBlock.count)

/-- Once a second run of a species is met, no item after it matters. -/
def areItemsContiguous (items : List (Supplied Atom)) : Except ValueFault Bool := do
  let (atoms, other?) := Supplied.leading items
  if isSpeciesContiguous atoms then
    refuseNonAtom other?
    return true
  else return false

structure SpeciesDraft where
  number : RawValue
  mass : RawValue
  sites : List (Supplied Site)

/-- Sites are checked last, up to the first item that is none. -/
def SpeciesDraft.check (draft : SpeciesDraft) : Except ValueFault SpeciesBlock := do
  let number ← AtomicNumber.ofRaw "SpeciesBlock.atomic_number" draft.number
  let mass ← draft.mass.toReal
  let (sites, other?) := Supplied.leading draft.sites
  match other? with
  | none => return ⟨number, mass, sites⟩
  | some value => throw (.notSite sites.length value.kind)

end Atomistic
