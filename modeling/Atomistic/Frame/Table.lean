import Atomistic.Frame.Basic

/-! Frames as tables, by columns and by rows. Numbers and ids are kept as 64-bit words. -/

namespace Atomistic

open Number

def toWord (value : Nat) : Except ValueFault Int64 :=
  if value < 2 ^ (63 : Nat) then .ok (Int64.ofNat value) else .error .tooWide

structure FrameColumns where
  cell : Triple
  angles : Triple
  numbers : List Int64
  positions : List Triple
  ids : List Int64
  masses : List Binary64
  fixed : List Bool
deriving DecidableEq, Repr

structure FrameRow where
  number : Int64
  symbol : String
  position : Triple
  id : Int64
  mass : Binary64
  isFixed : Bool
deriving DecidableEq, Repr

def FrameRow.columnNames : List String :=
  ["atomic_number", "symbol", "x", "y", "z", "atom_id", "mass", "is_fixed"]

namespace FrameColumns

/-- The symbols are looked up from the column of numbers, not taken from the atoms. -/
def symbols (columns : FrameColumns) : Except FormatFault (List String) :=
  columns.numbers.mapM fun number => Element.resolveNumber (.integer number.toInt)

/-- The columns side by side. Each one gives the rows their next field. -/
def rows (columns : FrameColumns) (symbols : List String) : List FrameRow :=
  columns.numbers.zipWith FrameRow.mk symbols
    |>.zipWith (· ·) columns.positions
    |>.zipWith (· ·) columns.ids
    |>.zipWith (· ·) columns.masses
    |>.zipWith (· ·) columns.fixed

end FrameColumns

namespace Frame

def columns (frame : Frame) : Except ValueFault FrameColumns := do
  let numbers ← frame.atoms.mapM fun atom => toWord atom.number.value
  let ids ← frame.atoms.mapM fun atom => toWord atom.id
  return {
    cell := frame.cell.lengths
    angles := frame.angles
    numbers
    positions := frame.atoms.map Atom.position
    ids
    masses := frame.atoms.map Atom.mass
    fixed := frame.atoms.map Atom.isFixed }

/-- One row for each atom, made of the columns. These come first, so a number that is too wide is
reported before one without a symbol. -/
def rows (frame : Frame) : Except Fault (List FrameRow) := do
  let columns ← frame.columns.mapError Fault.value
  let symbols ← columns.symbols.mapError Fault.format
  return columns.rows symbols

end Frame

end Atomistic
