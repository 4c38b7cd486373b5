import Atomistic.Frame.Basic
import Atomistic.Frame.Field

/-! The lines of a frame as they are written. Atoms are regrouped by species, and every
number is written so that it reads back as itself. -/

namespace Atomistic

open Number Text

/-- An integer of too many digits is not written, since it could not be read. -/
def writeId (id : Nat) : Except Fault Column :=
  if (Nat.toDigits 10 id).length ≤ digitLimit then .ok (.integer id)
  else .error (.value .tooManyDigitsToWrite)

def Triple.columns (triple : Triple) : List Column :=
  triple.toList.map .real

def Site.line (site : Site) : Except Fault Line :=
  return writeRow (site.position.columns ++ [← writeId site.id, .flag site.isFixed])

namespace SpeciesBlock

/-- The second field of a count line is the place of the block, counted from one. -/
def lines (block : SpeciesBlock) (symbol : String) (place : Nat) :
    Except Fault (List Line) := do
  let sites ← block.sites.mapM Site.line
  return symbol.toList :: writeRow [.integer block.count, .integer place] :: sites

def symbol (block : SpeciesBlock) : Except Fault String :=
  block.number.symbol.mapError Fault.format

end SpeciesBlock

/-- The lines of blocks with their symbols, numbered on from a place. -/
def blockLines (place : Nat) : List (SpeciesBlock × String) → Except Fault (List Line)
  | [] => .ok []
  | (block, symbol) :: rest =>
    return (← block.lines symbol place) ++ (← blockLines (place + 1) rest)

namespace Frame

def headLines (frame : Frame) : List Line := [
  frame.preBox.upper.text.toList,
  frame.preBox.lower.text.toList,
  writeRow frame.cell.lengths.columns,
  writeRow frame.angles.columns,
  frame.postBox.upper.text.toList,
  frame.postBox.lower.text.toList,
  writeInt frame.blocks.length,
  writeRow (frame.blocks.map fun block => .integer block.count),
  writeRow (frame.blocks.map fun block => .real block.mass)]

/-- Every symbol is looked up before anything else, so that a number without one leaves
nothing half written. -/
def lines (frame : Frame) : Except Fault (List Line) := do
  let symbols ← frame.blocks.mapM SpeciesBlock.symbol
  return frame.headLines ++ (← blockLines 1 (frame.blocks.zip symbols))

def write (frame : Frame) : Except Fault String :=
  return String.ofList (joinLines (← frame.lines))

end Frame

end Atomistic
