import Atomistic.Command.Session

/-! A short report on the last frame of a file. -/

namespace Atomistic.Command

open Number

def sixPlaces (value : Binary64) : String :=
  String.ofList value.writeSixPlaces

def tripleText (separator : String) (triple : Triple) : String :=
  separator.intercalate (triple.toList.map sixPlaces)

def speciesText (block : SpeciesBlock) : Except Fault String :=
  return (← block.symbol) ++ " x" ++ toString block.count ++ " (mass " ++
    String.ofList block.mass.writeBrief ++ ")"

def lastAtomText (atom : Atom) : String :=
  "last atom: id=" ++ toString atom.id ++ " Z=" ++ toString atom.number.value ++ " pos=(" ++
    tripleText ", " atom.position ++ ") fixed=" ++ (if atom.isFixed then "1" else "0")

def summaryLines (frame : Frame) : Except Fault (List String) := do
  let species ← frame.blocks.mapM speciesText
  return [
    "cell: " ++ tripleText " " frame.cell.lengths,
    "angles: " ++ tripleText " " frame.angles,
    "species: " ++ toString frame.blocks.length,
    if species.isEmpty then "  (none)" else "  " ++ ", ".intercalate species,
    "atoms: " ++ toString frame.atoms.length] ++
    (frame.atoms.getLast?.map lastAtomText).toList

/-- The frames in front of the end or of the first fault: how many, and the last one. -/
structure Survey where
  count : Nat
  last? : Option Frame
  fault? : Option Fault

def survey (count : Nat) (last? : Option Frame) (stream : FrameStream) : Survey :=
  match _taken : stream.next with
  | .error fault _ => ⟨count, last?, some fault⟩
  | .ok none _ => ⟨count, last?, none⟩
  | .ok (some frame) rest => survey (count + 1) (some frame) rest
termination_by stream.cursor.remaining
decreasing_by exact FrameStream.remaining_next _taken

def cannotRead (path : FilePath) : Fault → Stop
  | .file fault => .badParameter ("cannot read " ++ path.text ++ ": " ++ fault.message)
  | fault => .crashes fault

/-- A frame that cannot be read ends the survey, and when strict the command as well. -/
def tellFault (path : FilePath) (strict : Bool) : Option Fault → Running Unit
  | none => pure ()
  | some (.format fault) =>
    if strict then throw (.badParameter (path.text ++ ": " ++ fault.text))
    else warn ("note: stopped at a malformed frame: " ++ fault.text)
  | some fault => throw (cannotRead path fault)

/-- How many frames there are, and what the last one is like. -/
def tellFrames (path : FilePath) (count : Nat) : Option Frame → Running Unit
  | none => do
    warn ("error: no valid frames found in " ++ path.text)
    throw (.exits 1)
  | some frame => do
    inform ("Parsed " ++ toString count ++ " frame(s)")
    print ("frames: " ++ toString count)
    match summaryLines frame with
    | .ok lines => lines.forM print
    | .error fault => throw (.crashes fault)

def summary (pathText : String) (strict : Bool) : Running Unit := do
  let path := FilePath.ofText pathText
  inform ("Reading " ++ path.text)
  let stream ← withFiles (cannotRead path) (FrameStream.openFile path .utf8)
  let found := survey 0 none stream
  tellFault path strict found.fault?
  tellFrames path found.count found.last?

end Atomistic.Command
