import Atomistic.Frame.Basic
import Atomistic.Frame.Field
import Atomistic.LineCursor

/-! The lines of a frame. Two lines of free text, the lengths and the angles of the box, two
more lines of free text, the number of species, and the atom counts and masses of the
species come first. Then each species has a line with its symbol, a line with its count,
and one line for each atom. -/

namespace Atomistic

open Number Text

namespace FrameLine

open FrameField

def triple (what : String) (line : Line) : Except Fault Triple :=
  match fields line with
  | [x, y, z] => return ⟨← readReal what x, ← readReal what y, ← readReal what z⟩
  | _ => complain (.fieldCount what 3 line)

def freeText (line : Line) : Except Fault String :=
  .ok (String.ofList line)

def boxLengths (line : Line) : Except Fault Triple := do
  let lengths ← triple "cell lengths" line
  if lengths.anyNegative then complain (.negativeLengths lengths.toList)
  else return lengths

def boxAngles (line : Line) : Except Fault Triple :=
  triple "cell angles" line

def speciesCount (line : Line) : Except Fault Nat :=
  match fields line with
  | [token] => do
    let count ← readInteger "species count" token
    if count < 0 then complain (.negativeSpeciesCount count)
    else return count.toNat
  | _ => complain (.fieldCount "species count" 1 line)

/-- The counts are all read before any is refused for its sign. -/
def atomCounts (species : Nat) (line : Line) : Except Fault (List Nat) := do
  let counts ← readIntegers "atoms per species" species line
  match counts.find? (· < 0) with
  | some count => complain (.negativeAtomCount count)
  | none => return counts.map Int.toNat

def masses (species : Nat) (line : Line) : Except Fault (List Binary64) :=
  readReals "mass per species" species line

/-- A species is named by its place, and a line of it by its part. -/
def speciesLabel (species : Nat) (part : String) : String :=
  "species " ++ toString species ++ " " ++ part

/-- A species has one block only; a second one could not be written back unchanged. -/
def symbol (species : Nat) (seen : List AtomicNumber) (line : Line) :
    Except Fault AtomicNumber :=
  match fields line with
  | [token] =>
    match Element.numberOf? (String.ofList token) with
    | none => complain (.unknownSymbol (String.ofList token))
    | some number =>
      if seen.contains number then complain (.repeatedSpecies token)
      else return number
  | _ => complain (.fieldCount (speciesLabel species "symbol") 1 line)

/-- The word with which older files open a count line, in place of the count. -/
def coordinatesLabel : Line := "coordinates".toList

/-- A count line repeats the declared count, or bears a label and leaves it unsaid. -/
def blockCount (species declared : Nat) (line : Line) : Except Fault Unit :=
  let tokens := fields line
  if tokens.head?.map lowercase = some coordinatesLabel then .ok ()
  else match tokens with
    | [token, _] => do
      let count ← readInteger (speciesLabel species "count") token
      if count = declared then return ()
      else complain (.countDiffers species count declared)
    | _ => complain (.countLineFields species line)

def atomLineLabel : String := "atom line (x y z atom_id fixed)"

def site (line : Line) : Except Fault Site :=
  match fields line with
  | [x, y, z, id, flag] => do
    let x ← readReal "x" x
    let y ← readReal "y" y
    let z ← readReal "z" z
    let id ← readInteger "atom_id" id
    if id < 0 then complain (.negativeId id)
    else
      let isFixed ← readFlag flag
      return ⟨⟨x, y, z⟩, id.toNat, isFixed⟩
  | _ => complain (.fieldCount atomLineLabel 5 line)

end FrameLine

namespace Frame

open LineCursor FrameLine

/-- The lines of a frame's head that the blocks depend on. -/
structure SpeciesHead where
  counts : List Nat
  masses : List Binary64

def readCounts : Reading (List Nat) := do
  let species ← readAs "species count" FrameLine.speciesCount
  readAs "atoms per species" (FrameLine.atomCounts species)

def readSpeciesHead : Reading SpeciesHead := do
  let counts ← readCounts
  let masses ← readAs "mass per species" (FrameLine.masses counts.length)
  return ⟨counts, masses⟩

def readSites (reading : String) : Nat → Reading (List Site)
  | 0 => return []
  | count + 1 => do
    let site ← readAs reading FrameLine.site
    return site :: (← readSites reading count)

def readBlocks (species : Nat) (seen : List AtomicNumber) :
    List (Nat × Binary64) → Reading (List SpeciesBlock)
  | [] => return []
  | (count, mass) :: rest => do
    let number ← readAs (speciesLabel species "symbol") (FrameLine.symbol species seen)
    readAs (speciesLabel species "count line") (FrameLine.blockCount species count)
    let sites ← readSites (speciesLabel species "atom line") count
    return ⟨number, mass, sites⟩ :: (← readBlocks (species + 1) (number :: seen) rest)

/-- Read one frame. The input must not be at its end. That as many atoms were read as are
declared in total is not checked on its own: each block takes just as many sites as its
species declares, and a count line that says otherwise has failed before. -/
def read : Reading Frame := do
  let preUpper ← readAs "prebox header" FrameLine.freeText
  let preLower ← readAs "prebox header" FrameLine.freeText
  let lengths ← readAs "cell lengths" FrameLine.boxLengths
  let angles ← readAs "cell angles" FrameLine.boxAngles
  let postUpper ← readAs "postbox header" FrameLine.freeText
  let postLower ← readAs "postbox header" FrameLine.freeText
  let head ← readSpeciesHead
  let blocks ← readBlocks 1 [] (head.counts.zip head.masses)
  let frame := Frame.ofParts (preUpper, preLower) lengths angles (postUpper, postLower)
    (flatten blocks)
  settle (frame.mapError Fault.value)

def skipLines (reading : String) : Nat → Reading Unit
  | 0 => return ()
  | count + 1 => do
    let _ ← require reading
    skipLines reading count

/-- The lines below the header: two for each species, and one for each of its atoms. -/
def bodyLines : List Nat → Nat
  | [] => 0
  | count :: counts => 2 + count + bodyLines counts

/-- Pass over one frame, with no look at any line but the two that tell its size. -/
def skip : Reading Unit := do
  skipLines "frame header" 6
  let counts ← readCounts
  skipLines "mass per species" 1
  skipLines "frame body" (bodyLines counts)

end Frame

end Atomistic
